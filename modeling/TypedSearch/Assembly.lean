import TypedSearch.Conversion

/-!
# Assembly of containers

From the tagged texts inside an array node and a declared type to a container. The items are
converted one by one and in order, and the first that fails decides.

## What is covered

`assembleBy` is the operation `assemble`, with the shape that `Declared.shape?` finds. The type of
the items is called through a `Caller`, so code of such a class counts by what it returns or raises.
-/

namespace TypedSearch.Assembly

/-- An item of an array node. -/
structure Item where
  tag : String
  text : String
deriving DecidableEq, Repr

def typeOfTag? : String → Option Declared
  | "int" | "long" => some (.base .int)
  | "str" => some (.base .text)
  | "bool" => some (.base .bool)
  | "date" => some (.base .moment)
  | "float" | "double" => some (.base .float)
  | _ => none

def convertTagged (i : Item) : Except Fault Value :=
  match typeOfTag? i.tag with
  | some t => Conversion.convert t i.text
  | none => .error (.element (.unknownKey (Text.quoted i.tag)))

/-- Converts an item of a container, calling types as `call` says. -/
def convertItem (call : Conversion.Caller) (s : Shape) (i : Item) : Except Fault Value :=
  match s with
  | .homogeneous t | .array t => Conversion.convertBy call t i.text
  | .untyped => convertTagged i

def build : Shape → List Value → Value
  | .homogeneous _, vs | .untyped, vs => .list vs
  | .array _, vs => .tuple vs

/-- The fault of an item as a fault of the container: a failed conversion or an unknown key is kept
as the cause, anything else passes through. The items of a tuple are made while they are asked for,
and there running out of elements is a failure of its own. -/
def wrap (s : Shape) (t : Declared) (f : Fault) : Fault :=
  match f.asElement?, s with
  | some e, _ => .collection t.name (some e)
  | none, .array _ =>
    if f.kind == "StopIteration" then .failed "generator raised StopIteration" else f
  | none, _ => f

/-- Assembles a container of a shape, calling types as `call` says. -/
def assembleAs (call : Conversion.Caller) (s : Shape) (t : Declared) (items : List Item) :
    Except Fault Value :=
  ((items.mapM (convertItem call s)).map (build s)).mapError (wrap s t)

/-- Assembles a container of a declared type, calling types as `call` says. -/
def assembleBy (call : Conversion.Caller) (t : Declared) (items : List Item) :
    Except Fault Value := do
  match ← t.shape? with
  | some s => assembleAs call s t items
  | none => .error (t.naming (.collection · none))

section

variable {call : Conversion.Caller} {t : Declared} {items : List Item}

/-- A container type reads its items by its shape. -/
theorem assembleBy_of_shape? {s : Shape} (h : t.shape? = .ok (some s)) :
    assembleBy call t items = assembleAs call s t items := by
  rw [assembleBy, h]
  rfl

/-- A type that is no container is refused by name. -/
theorem assembleBy_of_shape?_none (h : t.shape? = .ok none) :
    assembleBy call t items = .error (t.naming (.collection · none)) := by
  rw [assembleBy, h]
  rfl

end

def assemble (t : Declared) (items : List Item) : Except Fault Value :=
  assembleBy Conversion.call t items

end TypedSearch.Assembly
