/-!
# Elements

A document as its readers see it: elements with attributes, the text before the first child, and the
children. Text between and after children is of no use here and is not kept.
-/

namespace TypedSearch.Markup

inductive Element where
  | mk (tag : String) (attributes : List (String × String)) (text : String)
      (children : List Element)
deriving Inhabited

namespace Element

def tag : Element → String
  | .mk t _ _ _ => t

def attributes : Element → List (String × String)
  | .mk _ as _ _ => as

def text : Element → String
  | .mk _ _ t _ => t

def children : Element → List Element
  | .mk _ _ _ cs => cs

def attribute? (e : Element) (name : String) : Option String := e.attributes.lookup name

def childrenNamed (e : Element) (tag : String) : List Element :=
  e.children.filter (·.tag == tag)

def child? (e : Element) (tag : String) : Option Element := e.children.find? (·.tag == tag)

mutual

def same : Element → Element → Bool
  | .mk t as x cs, .mk u bs y ds => t == u && as == bs && x == y && sameAll cs ds

def sameAll : List Element → List Element → Bool
  | [], [] => true
  | a :: as, b :: bs => same a b && sameAll as bs
  | _, _ => false

end

mutual

theorem same_iff : ∀ {a b : Element}, same a b = true ↔ a = b
  | .mk t as x cs, .mk u bs y ds => by simp [same, sameAll_iff, and_assoc]

theorem sameAll_iff : ∀ {as bs : List Element}, sameAll as bs = true ↔ as = bs
  | [], [] => by simp [sameAll]
  | [], _ :: _ => by simp [sameAll]
  | _ :: _, [] => by simp [sameAll]
  | a :: as, b :: bs => by simp [sameAll, same_iff, sameAll_iff]

end

instance : DecidableEq Element := fun _ _ ↦ decidable_of_iff _ same_iff

end Element

end TypedSearch.Markup
