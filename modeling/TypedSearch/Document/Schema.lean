import TypedSearch.Declared.Kind
import TypedSearch.Document.Type
import TypedSearch.Journal.Basic
import TypedSearch.Value.Order

/-!
# Schemas

The schema of a document type says for each member under which name it travels and how it is read.
It is built once, and everything that could never work is refused then: members of a type that no
reader produces, frozen types, constructors that want arguments.

## What is covered

`Schema.build` is the operation `build_schema`, in the order of its checks: the class, frozen
dataclasses, the constructor, the annotations, then each member by `Field.describe`. Whether a
member can be set is not among them, so `Document.assign` may still fail for a schema that was
built.
-/

namespace TypedSearch

/-- How a member is read: as a single value or as a container. -/
inductive Content where
  | scalar (kind : Kind)
  | container (shape : Shape)
deriving DecidableEq

namespace Content

def kind? : Content → Option Kind
  | .scalar k => some k
  | .container _ => none

def shape? : Content → Option Shape
  | .scalar _ => none
  | .container s => some s

def isContainer : Content → Bool
  | .scalar _ => false
  | .container _ => true

end Content

def Declared.content (t : Declared) : Except Fault Content := do
  if t.isMappingOrSet then .error (t.naming (.collection · none))
  else match ← t.shape? with
    | some s => return .container s
    | none =>
      if t.inner.isParameterized then .error (t.naming (.collection · none))
      else match ← t.kind? with
        | some k => return .scalar k
        | none => .error (t.naming (.collection · none))

/-- How one member travels and is read. -/
structure Field where
  wireName : String
  member : String
  type : Declared
  content : Content
  /-- Was the member declared as a wire field? -/
  isExplicit : Bool
deriving DecidableEq

namespace Field

def describe (member : String) (type : Declared) (wireName : String) (isExplicit : Bool) :
    Except Fault Field := do
  return ⟨wireName, member, type, ← type.content, isExplicit⟩

/-- Is the value nothing to ask for: null, an empty container, or the zero of the declared type? -/
def isDefault (f : Field) (v : Value) : Except Fault Bool :=
  if v = .null then .ok true
  else if f.content.isContainer then
    match v.length? with
    | some n => .ok (n == 0)
    | none => .error (.wrongType "object has no len()")
  else match f.type.inner with
    | .base .int | .base .float | .base .decimal | .base .bool => v.isZero
    | .base .text => .ok v.isEmptyText
    | _ => .ok false

end Field

/-- The members of a document type that travel, in the order of their declaration. -/
structure Schema where
  type : DocumentType
  fields : List Field
deriving DecidableEq

namespace Schema

/-- The members that are declared as wire fields, by their wire names: of several under one name the
first one stays. -/
def byWireName (s : Schema) : List Field :=
  (s.fields.filter Field.isExplicit).foldl (fun fs f ↦ keepNamed Field.wireName f fs) []

/-- All members, by their own names: of several under one name the last one stays. -/
def byMember (s : Schema) : List Field := s.fields.foldl (fun fs f ↦ putNamed Field.member f fs) []

/-- The member that a wire name reaches: the one kept under that wire name, or else the one that
bears the name itself. -/
def lookup (s : Schema) (wireName : String) : Option Field :=
  (s.byWireName.find? fun f ↦ f.wireName == wireName) <|>
    s.byMember.find? fun f ↦ f.member == wireName

/-- Adds the members' types with their texts looked up; a member that is declared again keeps its
place. -/
def layerHints (scope : Annotation.Scope) (hints : List (String × Declared)) (l : Layer) :
    Declared.Building (List (String × Declared)) := do
  let scope := { scope with
    held := l.held.map fun h ↦ (h.1, .constant h.2)
    shared := ← Declared.Building.newFrame [] }
  l.members.foldlM
    (fun hints m ↦ do return putNamed Prod.fst (m.name, ← Annotation.resolve scope m.type) hints)
      hints

/-- The types of all members of a row of layers, the lowest layer's first. -/
def hintsOf (scope : Annotation.Scope) (layers : List Layer) :
    Except Fault (List (String × Declared)) :=
  (layers.foldlM (layerHints scope) []).run' (.ofBuilt scope.built)

def hints (t : DocumentType) : Except Fault (List (String × Declared)) :=
  match hintsOf t.scope t.layers with
  | .error (.wrongType message) => .error (.documentType (.unresolved t.name message))
  | .error (.undefinedName n) =>
    .error (.documentType (.unresolved t.name (Fault.undefinedName n).message))
  | .error (.unboundName n isLocal) =>
    .error (.documentType (.unresolved t.name (Fault.unboundName n isLocal).message))
  | x => x

def isClassType (t : Declared) : Bool := Role.ofType t == .ofClass

def describeData (hints : List (String × Declared)) (fields : List DataField) :
    Except Fault (List Field) :=
  fields.mapM fun f ↦
    let wireName := match f.wire with
      | some w => if w.isEmpty then f.name else w
      | none => f.name
    Field.describe f.name ((hints.lookup f.name).getD (.base .any)) wireName f.wire.isSome

/-- Describes the members of a plain class; those with an underscore in front are its own affair. -/
def describePlain (hints : List (String × Declared)) : Except Fault (List Field) :=
  (hints.filter fun h ↦ !(h.1.toList.head? == some '_' || isClassType h.2)).mapM fun h ↦
    Field.describe h.1 h.2 h.1 false

def describeAll (t : DocumentType) : Except Fault (List Field) := do
  if t.isFrozen then .error (.documentType (.frozen t.name))
  else
    let required := t.constructor.required
    if !required.isEmpty then .error (.documentType (.needsArguments t.name required))
    else
      let hints ← hints t
      if t.isDataclass then describeData hints (dataFields t.fromTop) else describePlain hints

def resolvedNote (t : DocumentType) (n : Nat) : Journal.Note :=
  ⟨.debug, .schema, "Resolved " ++ toString n ++ " fields for " ++ t.name⟩

def build (t : DocumentType) : Except Fault Schema := (describeAll t).map (⟨t, ·⟩)

end Schema

/-- What may be offered as a document type. -/
inductive Candidate where
  | type (t : DocumentType)
  | value (v : Value)
deriving DecidableEq

namespace Candidate

def type? : Candidate → Except Fault DocumentType
  | .type t => .ok t
  | .value v => .error (.documentType (.notAClass v.inspect))

def checkHashable : Candidate → Except Fault Unit
  | .type _ => .ok ()
  | .value v => match v.keyFault? with
    | none => .ok ()
    | some message => .error (.wrongType message)

end Candidate

end TypedSearch
