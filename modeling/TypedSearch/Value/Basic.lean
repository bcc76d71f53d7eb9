import TypedSearch.Number.Complex
import TypedSearch.Number.Decimal
import TypedSearch.Number.Ratio
import TypedSearch.Calendar.Moment

/-!
# Values

What a member of a document may hold. Equality of values is structural and decidable: `1.50` and
`1.5` are two decimals here, and a moment is tied to the clock that shows it.
-/

namespace TypedSearch

/-- A value that is known by its class and its two texts alone. -/
structure Thing where
  family : String
  shown : String
  inspected : String
  isHashable : Bool
  /-- Can copies of it be made? -/
  isCopied : Bool
deriving DecidableEq, Repr

inductive Value where
  | null
  | bool (b : Bool)
  | int (n : Int)
  | float (x : Binary64)
  | complex (z : Complex)
  | decimal (d : Decimal)
  | text (s : String)
  /-- A text that belongs to a class of its own, which may show it as another one. -/
  | code (family s shown : String)
  | bytes (bs : List UInt8)
  | date (d : Date)
  | moment (m : Moment)
  | ratio (q : Rat)
  /-- A member of an enumeration; `whole` enumerations stand for integers. -/
  | symbol (family name : String) (value : Value) (whole : Bool)
  | list (xs : List Value)
  | tuple (xs : List Value)
  /-- A document made by calling its type: the fields that hold something with their values, and the
  first field that holds nothing. -/
  | record (family : String) (names : List String) (values : List Value) (absent : Option String)
  | thing (t : Thing)
deriving Inhabited

namespace Value

/-! ## Equality -/

mutual

def same : Value → Value → Bool
  | .null, .null => true
  | .bool a, .bool b => a == b
  | .int a, .int b => a == b
  | .float a, .float b => a == b
  | .complex a, .complex b => a == b
  | .decimal a, .decimal b => a == b
  | .text a, .text b => a == b
  | .code f a x, .code g b y => f == g && a == b && x == y
  | .bytes a, .bytes b => a == b
  | .date a, .date b => a == b
  | .moment a, .moment b => a == b
  | .ratio a, .ratio b => a == b
  | .symbol f n v w, .symbol g m u x => f == g && n == m && same v u && w == x
  | .list a, .list b => sameAll a b
  | .tuple a, .tuple b => sameAll a b
  | .record f n a x, .record g m b y => f == g && n == m && sameAll a b && x == y
  | .thing t, .thing u => t == u
  | _, _ => false

def sameAll : List Value → List Value → Bool
  | [], [] => true
  | a :: as, b :: bs => same a b && sameAll as bs
  | _, _ => false

end

mutual

theorem same_iff : ∀ {a b : Value}, same a b = true ↔ a = b
  | .list a, b => by cases b <;> simp [same, sameAll_iff]
  | .tuple a, b => by cases b <;> simp [same, sameAll_iff]
  | .record f n a x, b => by cases b <;> simp [same, sameAll_iff, and_assoc]
  | .symbol f n v w, b => by cases b <;> simp [same, same_iff, and_assoc]
  | .code .., b => by cases b <;> simp [same, and_assoc]
  | .null, b | .bool _, b | .int _, b | .float _, b | .complex _, b | .decimal _, b | .text _, b
  | .bytes _, b | .date _, b | .moment _, b | .ratio _, b | .thing _, b => by
    cases b <;> simp [same]

theorem sameAll_iff : ∀ {as bs : List Value}, sameAll as bs = true ↔ as = bs
  | [], [] => by simp [sameAll]
  | [], _ :: _ => by simp [sameAll]
  | _ :: _, [] => by simp [sameAll]
  | a :: as, b :: bs => by simp [sameAll, same_iff, sameAll_iff]

end

instance : DecidableEq Value := fun _ _ ↦ decidable_of_iff _ same_iff

/-! ## Classes and keys -/

def family : Value → String
  | .null => "NoneType"
  | .bool _ => "bool"
  | .int _ => "int"
  | .float _ => "float"
  | .complex _ => "complex"
  | .decimal _ => "decimal.Decimal"
  | .text _ => "str"
  | .code family .. => family
  | .bytes _ => "bytes"
  | .date _ => "datetime.date"
  | .moment _ => "datetime.datetime"
  | .ratio _ => "Fraction"
  | .symbol family .. => family
  | .list _ => "list"
  | .tuple _ => "tuple"
  | .record family .. => family
  | .thing t => t.family

mutual

/-- Why the value cannot be a key, if it cannot: lists cannot be one, nor what holds one, nor a
signaling not-a-number. -/
def keyFault? : Value → Option String
  | .list _ => some "unhashable type: 'list'"
  | .record family .. => some ("unhashable type: '" ++ family ++ "'")
  | .decimal (.nan _ true _) => some "Cannot hash a signaling NaN value."
  | .thing t => if t.isHashable then none else some ("unhashable type: '" ++ t.family ++ "'")
  | .tuple xs => firstKeyFault? xs
  | _ => none

/-- Why the first value of a row that cannot be a key cannot. -/
def firstKeyFault? : List Value → Option String
  | [] => none
  | x :: xs => keyFault? x <|> firstKeyFault? xs

end

end Value

end TypedSearch
