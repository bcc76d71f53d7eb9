import TypedSearch.Markup.Content
import TypedSearch.Markup.Element

/-!
# Namespaces

From the tree as it is written to elements: attribute values are read, defaults filled in, and
prefixes replaced by the namespaces they are bound to.
-/

namespace TypedSearch.Markup

open Text

/-- The namespace that the prefix `xml` is always bound to. -/
def xmlNamespace : List Char := "http://www.w3.org/XML/1998/namespace".toList

def bindingNamespace : List Char := "http://www.w3.org/2000/xmlns/".toList

/-- The namespaces that prefixes are bound to, the latest first; the empty prefix is that of
elements without one. -/
abbrev Bindings := List (List Char × List Char)

def splitName (name : List Char) : List Char × List Char :=
  match cut ':' name with
  | (a, some b) => (a, b)
  | (a, none) => ([], a)

def bindingPrefix? (name : List Char) : Option (List Char) :=
  if name == "xmlns".toList then some []
  else match splitName name with
    | (['x', 'm', 'l', 'n', 's'], bound) => some bound
    | _ => none

/-- Binds a prefix. The reserved prefixes and namespaces stay with each other, and only the empty
prefix may be bound to nothing. -/
def bind? (p uri : List Char) (b : Bindings) : Option Bindings :=
  if p == "xmlns".toList then none
  else if uri.isEmpty && !p.isEmpty then none
  else if (p == "xml".toList) != (uri == xmlNamespace) then none
  else if uri == bindingNamespace then none
  else if uri.contains '}' then none
  else some ((p, uri) :: b)

def braced (uri name : List Char) : String :=
  .ofList (if uri.isEmpty then name else '{' :: uri ++ '}' :: name)

def elementName (b : Bindings) (name : List Char) : Option String :=
  let (p, n) := splitName name
  match b.lookup p with
  | some uri => some (braced uri n)
  | none => if p.isEmpty then some (braced [] n) else none

/-- The full name of an attribute, which has a namespace only with a prefix. -/
def attributeName (b : Bindings) (name : List Char) : Option String :=
  let (p, n) := splitName name
  if p.isEmpty then some (braced [] n) else (b.lookup p).map fun uri ↦ braced uri n

/-! ## Attributes -/

def distinct {α : Type} [BEq α] : List α → Bool
  | [] => true
  | x :: xs => !xs.contains x && distinct xs

def ruledValue (d : Declarations) (letters : Alphabet) (element : List Char)
    (a : List Char × List Char) : Option (List Char × List Char) := do
  let v ← attributeValue d letters a.2
  let rule := d.attributes.find? fun r ↦ r.element == element && r.name == a.1
  return (a.1, if rule.all (·.isPlain) then v else collapse v)

/-- The attributes of an element: those written, and the defaults of those that are not. -/
def allAttributes (d : Declarations) (letters : Alphabet) (element : List Char)
    (written : List (List Char × List Char)) : Option (List (List Char × List Char)) := do
  if !distinct (written.map (·.1)) then none
  else do
    let values ← written.mapM (ruledValue d letters element)
    let defaults := d.attributes.filterMap fun r ↦
      if r.element == element && !(written.map (·.1)).contains r.name then
        r.default.map fun v ↦ (r.name, v)
      else none
    return values ++ defaults

/-- The bindings in force for an element with some attributes. -/
def bindAll (b : Bindings) (attributes : List (List Char × List Char)) : Option Bindings :=
  attributes.foldlM (fun b a ↦ match bindingPrefix? a.1 with
    | some p => bind? p a.2 b
    | none => some b) b

/-- The attributes with their full names, those that bind prefixes left out. -/
def namedAttributes (b : Bindings) (attributes : List (List Char × List Char)) :
    Option (List (String × String)) := do
  let named ← (attributes.filter fun a ↦ (bindingPrefix? a.1).isNone).mapM fun a ↦
    (attributeName b a.1).map fun n ↦ (n, String.ofList a.2)
  if distinct (named.map (·.1)) then some named else none

/-! ## Elements -/

/-- The text in front of the first element of some content. -/
def leadingText : List Node → List Char
  | .text cs :: nodes => cs ++ leadingText nodes
  | _ => []

mutual

/-- The element that a node stands for; text stands for none. -/
def Node.resolve (d : Declarations) (b : Bindings) : Node → Option (Option Element)
  | .text _ => some none
  | .element letters name written content => do
    let attributes ← allAttributes d letters name written
    let b ← bindAll b attributes
    return some (.mk (← elementName b name) (← namedAttributes b attributes)
      (.ofList (leadingText content)) (← resolveAll d b content))

def resolveAll (d : Declarations) (b : Bindings) : List Node → Option (List Element)
  | [] => some []
  | n :: ns => do
    let e ← n.resolve d b
    let es ← resolveAll d b ns
    return e.toList ++ es

end

def initialBindings : Bindings := [("xml".toList, xmlNamespace)]

end TypedSearch.Markup
