import TypedSearch.Declared.Name

/-!
# Kinds and shapes

A declared type holds single values of some kind, or a container of some shape, or neither; never
both. `Declared.kind?` and `Declared.shape?` tell which.

The tables behind them look types up, which a type with an unhashable constant inside does not
allow: `Declared.kind?` and `Declared.shape?` then fail.

## What is covered

`kind?` is `scalar_kind_for` and `shape?` is `collection_spec_for`.
-/

namespace TypedSearch

/-- How the text of a single value is read. -/
inductive Kind where
  | integer
  | string
  | boolean
  | float
  | decimal
  | timestamp
  | optionalTimestamp
  /-- By calling the type itself. -/
  | generic
deriving DecidableEq, Repr

namespace Kind

def all : List Kind :=
  [.integer, .string, .boolean, .float, .decimal, .timestamp, .optionalTimestamp, .generic]

def name : Kind → String
  | .integer => "integer"
  | .string => "string"
  | .boolean => "boolean"
  | .float => "float"
  | .decimal => "decimal"
  | .timestamp => "timestamp"
  | .optionalTimestamp => "optional_timestamp"
  | .generic => "generic"

def ofName? (s : String) : Option Kind := all.find? (·.name == s)

/-- The kind of a class of single values. Rows of octets hold many values and are of no kind. -/
def ofBase : Base → Option Kind
  | .int => some .integer
  | .text | .any => some .string
  | .bool => some .boolean
  | .float => some .float
  | .decimal => some .decimal
  | .moment => some .timestamp
  | .date | .ratio | .null | .object => some .generic
  | .bytes | .bytearray => none

def ofInner : Declared → Option Kind
  | .base b => ofBase b
  | .enumeration _ | .textual _ | .reader _ | .document _ | .special _ => some .generic
  | .other c => if c.isContainer then none else some .generic
  | _ => none

end Kind

/-- How a container is built. -/
inductive Shape where
  /-- A list whose items are all of one type. -/
  | homogeneous (element : Declared)
  /-- A tuple whose items are all of one type. -/
  | array (element : Declared)
  /-- A list whose items are typed by the wire. -/
  | untyped
deriving DecidableEq

namespace Shape

def name : Shape → String
  | .homogeneous _ => "homogeneous"
  | .array _ => "array"
  | .untyped => "untyped"

def element? : Shape → Option Declared
  | .homogeneous t | .array t => some t
  | .untyped => none

end Shape

namespace Declared

def kind? (t : Declared) : Except Fault (Option Kind) :=
  match t.unwrap with
  | (.base .moment, true) => .ok (some .optionalTimestamp)
  | (t, _) => do
    t.checkKey
    return Kind.ofInner t

def isScalar (t : Declared) : Except Fault Bool := t.kind?.map Option.isSome

/-- Is a container whose items are not declared built as a list of items of any type? -/
def isUntyped : Family → Bool
  | .list | .sequence | .collection | .iterable => true
  | _ => false

/-- Is a container of the family, with its items declared, built as a list? -/
def isListLike : Family → Bool
  | .list | .sequence | .mutableSequence | .collection | .iterable => true
  | _ => false

def innerShape? : Declared → Except Fault (Option Shape)
  | .container f _ => .ok (if isUntyped f then some .untyped else none)
  | .applied .tuple _ [e, .rest] => do
    return if ← e.isScalar then some (.array e) else none
  | .applied f _ [e] =>
    if !isListLike f then .ok none
    else if e = .base .any then .ok (some .untyped)
    else do return if ← e.isScalar then some (.homogeneous e) else none
  | _ => .ok none

def shape? (t : Declared) : Except Fault (Option Shape) := t.inner.innerShape?

/-- Is the type a mapping or a set, which the wire cannot carry? -/
def isMappingOrSet (t : Declared) : Bool :=
  match t.inner with
  | .container f _ | .applied f _ _ =>
    match f with
    | .dict | .mapping | .set | .frozenset | .abstractSet => true
    | _ => false
  | _ => false

/-- Does the type take arguments and have them, or is it an alias that would? -/
def isParameterized : Declared → Bool
  | .container _ .alias | .applied .. | .appliedOther .. | .classVar _ | .union .. | .literal _
  | .unpacked _ => true
  | _ => false

end Declared

end TypedSearch
