import TypedSearch.Declared.Signature
import TypedSearch.Fault
import TypedSearch.Text.Case
import TypedSearch.Value.Display

/-!
# Declared types

The types that members of a document are declared with: plain classes, containers with or without
arguments, optional and other unions, and the forms that only look like types.
-/

namespace TypedSearch

open Text

/-- Where a class lives and what it is called. -/
structure ClassName where
  home : String
  name : String
deriving DecidableEq, Repr

/-- The name of a class with its home in front. -/
def ClassName.qualified (c : ClassName) : String := c.home ++ "." ++ c.name

/-- The classes of single values. -/
inductive Base where
  | int
  | text
  | bool
  | float
  | decimal
  | moment
  | date
  | ratio
  /-- The class of the null value. -/
  | null
  | object
  | bytes
  | bytearray
  /-- Any value at all. -/
  | any
deriving DecidableEq, Repr

inductive Family where
  | list
  | tuple
  | dict
  | set
  | frozenset
  | deque
  | sequence
  | mutableSequence
  | collection
  | iterable
  | iterator
  | mapping
  | abstractSet
deriving DecidableEq, Repr

/-- How a container is named: as the class itself, or by an alias that checks its arguments. -/
inductive Spelling where
  | plain
  | alias
deriving DecidableEq, Repr

/-- A class with a fixed set of named members. -/
structure Enumeration where
  className : ClassName
  members : List (String × Value)
  whole : Bool
deriving DecidableEq

/-- What a class beside these makes of a text. -/
inductive Making where
  | refusal
  | complexNumber
  /-- An exception that carries the text and shows it as it is, or between quotes. -/
  | exception (quotes : Bool)
  /-- A thing shown as the quoted text between two others. -/
  | wrapped (opening closing : String) (isCopied : Bool)
  /-- The class that texts belong to. -/
  | classOfText
deriving DecidableEq, Repr

/-- A class that no kind of value is read as. -/
structure OtherClass where
  className : ClassName
  /-- Do its objects hold many values? -/
  isContainer : Bool
  takesArguments : Bool
  making : Making
deriving DecidableEq, Repr

/-- How a reader that is no class answers a text. -/
inductive Reading where
  /-- It knows some texts with their values; any other is an unknown key. -/
  | table (answers : List (String × Value))
  /-- It fails with the text after this beginning. -/
  | failure (opening : String)
  | refusal
  /-- It does something that is not worked out here. -/
  | beyond (name : String)
  /-- It prints the text and gives nothing. -/
  | printing
  /-- It adds the characters up, which works for none of them alone. -/
  | total
  | length
  | quotation
  | asciiQuotation
  | isPresent
  | always (b : Bool)
  | greatest
  | least
  | codePoint
  | sorting
  | itself
  | method (m : TextMethod)
  /-- It stands for elements that are not there, because finding them fails. -/
  | failing (fault : Fault)
deriving DecidableEq

/-- A reader that is called with a text and is no class: how it is shown, its name among the
arguments of a class, the class it belongs to, and how it answers. -/
structure Reader where
  shown : String
  label : String
  family : String
  reading : Reading
deriving DecidableEq

/-- A document type as the type of a member: its class, its constructor, the fields that its
documents have as a dataclass, what the class itself holds, and whether it builds on another one. -/
structure DocumentClass where
  className : ClassName
  constructor : Signature
  fields : List String
  held : List (String × Value)
  isDerived : Bool
deriving DecidableEq

/-- The forms that take arguments but are no classes. -/
inductive SpecialForm where
  | classVar
  | optional
  | union
  | literal
deriving DecidableEq, Repr

/-- How a union is written: in brackets, or with bars between its members. -/
inductive UnionStyle where
  | brackets
  | bars
deriving DecidableEq, Repr

inductive RowForm where
  | tuple
  | list
  | set
  /-- Keys and values by turns. -/
  | dict
  /-- The two ends and the step of a section. -/
  | slice
  /-- The two ends and the step of a row of whole numbers that are not written out. -/
  | range
  /-- A set that cannot change. -/
  | frozenset
  /-- Elements that are gone through once, with the class of what goes through them. -/
  | walk (family : String)
  /-- The keys, the values or the pairs of a dictionary, with the class of the view. -/
  | view (family : String)
deriving DecidableEq, Repr

/-- The elements that clauses without brackets of their own give. -/
abbrev RowForm.generator : RowForm := .walk "generator"

inductive Declared where
  | base (b : Base)
  /-- The dots that stand for any number of further elements. -/
  | rest
  | container (f : Family) (s : Spelling)
  | applied (f : Family) (s : Spelling) (args : List Declared)
  | enumeration (e : Enumeration)
  /-- A class of texts. -/
  | textual (c : ClassName)
  | reader (r : Reader)
  | document (d : DocumentClass)
  /-- A class beside all these, and the same with arguments. -/
  | other (c : OtherClass)
  | appliedOther (c : OtherClass) (args : List Declared)
  | special (f : SpecialForm)
  | classVar (t : Declared)
  | union (style : UnionStyle) (members : List Declared)
  | literal (values : List Value)
  /-- A plain value in place of a type. -/
  | constant (v : Value)
  /-- A type to be looked up by its text. -/
  | forward (text : String)
  /-- A row that holds more than plain values. -/
  | row (form : RowForm) (items : List Declared)
  /-- The elements of a container in place of the container. -/
  | unpacked (t : Declared)
deriving Inhabited

namespace Declared

/-! ## Equality -/

mutual

def same : Declared → Declared → Bool
  | .base a, .base b => a == b
  | .rest, .rest => true
  | .container f s, .container g t => f == g && s == t
  | .applied f s a, .applied g t b => f == g && s == t && sameAll a b
  | .enumeration a, .enumeration b => a == b
  | .textual a, .textual b => a == b
  | .reader a, .reader b => a == b
  | .document a, .document b => a == b
  | .other a, .other b => a == b
  | .appliedOther c a, .appliedOther d b => c == d && sameAll a b
  | .special a, .special b => a == b
  | .classVar a, .classVar b => same a b
  | .union s a, .union t b => s == t && sameAll a b
  | .literal a, .literal b => a == b
  | .constant a, .constant b => a == b
  | .forward a, .forward b => a == b
  | .row f a, .row g b => f == g && sameAll a b
  | .unpacked a, .unpacked b => same a b
  | _, _ => false

def sameAll : List Declared → List Declared → Bool
  | [], [] => true
  | a :: as, b :: bs => same a b && sameAll as bs
  | _, _ => false

end

mutual

theorem same_iff : ∀ {a b : Declared}, same a b = true ↔ a = b
  | .applied f s a, b => by cases b <;> simp [same, sameAll_iff, and_assoc]
  | .union s a, b => by cases b <;> simp [same, sameAll_iff]
  | .appliedOther c a, b => by cases b <;> simp [same, sameAll_iff]
  | .row f a, b => by cases b <;> simp [same, sameAll_iff]
  | .unpacked a, b => by cases b <;> simp [same, same_iff]
  | .classVar a, b => by cases b <;> simp [same, same_iff]
  | .base _, b | .rest, b | .container .., b | .enumeration _, b | .textual _, b | .reader _, b
  | .document _, b | .other _, b | .special _, b | .literal _, b | .constant _, b
  | .forward _, b => by
    cases b <;> simp [same]

theorem sameAll_iff : ∀ {as bs : List Declared}, sameAll as bs = true ↔ as = bs
  | [], [] => by simp [sameAll]
  | [], _ :: _ => by simp [sameAll]
  | _ :: _, [] => by simp [sameAll]
  | a :: as, b :: bs => by simp [sameAll, same_iff, sameAll_iff]

end

instance : DecidableEq Declared := fun _ _ ↦ decidable_of_iff _ same_iff

/-! ## Taking apart -/

abbrev null : Declared := .base .null

/-- The members of a union apart from the null class. -/
def present (members : List Declared) : List Declared := members.filter (· != null)

/-- The type inside an optional one, and whether there was one: a union of exactly two members, one
of them the null class. -/
def unwrap : Declared → Declared × Bool
  | .union s members =>
    match present members with
    | [t] => if members.length = 2 then (t, true) else (.union s members, false)
    | _ => (.union s members, false)
  | t => (t, false)

def inner (t : Declared) : Declared := t.unwrap.1

def isOptional (t : Declared) : Bool := t.unwrap.2

/-- A row of types; one that holds plain values alone is such a value itself. -/
def rowOf (form : RowForm) (items : List Declared) : Declared :=
  let plain? : Declared → Option Value
    | .constant v => some v
    | _ => none
  match form, items.mapM plain? with
  | .tuple, some vs => .constant (.tuple vs)
  | .list, some vs => .constant (.list vs)
  | _, _ => .row form items

/-- What a key in brackets gives: the items of a tuple, or the key alone. -/
def parameters (key : Declared) : List Declared :=
  match key with
  | .constant (.tuple xs) => xs.map .constant
  | .row .tuple ts => ts
  | t => [t]

/-- What stands at the end of elements the next of which is not found, because finding it fails. -/
def failing (fault : Fault) : Declared := .reader ⟨"", "", "", .failing fault⟩

/-- Why the thing is no element, if it stands for elements that are not found. -/
def failure? : Declared → Option Fault
  | .reader ⟨_, _, _, .failing fault⟩ => some fault
  | _ => none

def prints : Declared → Bool
  | .reader r => r.reading == .printing
  | _ => false

def isTuple : Declared → Bool
  | .constant (.tuple _) | .row .tuple _ => true
  | _ => false

end Declared

end TypedSearch
