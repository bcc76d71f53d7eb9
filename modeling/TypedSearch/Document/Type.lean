import TypedSearch.Annotation.Resolution
import TypedSearch.Document.Role
import TypedSearch.Named
import TypedSearch.Text.Identifier

/-!
# Document types

A document type is built in layers, each of which declares members and inherits those of the layers
below it. A layer is a dataclass, whose constructor takes the members and keeps them, a frozen
dataclass, or a plain class with annotations.

Code that a layer brings along is given by what it comes to: what a constructor written by hand sets
or fails with, the same for what follows the constructor of a dataclass, and for each member that
does not let itself be set, the fault of trying. A member that lets itself be set holds the value
afterwards; descriptors that store something else are beyond this, and so are the names that every
object keeps for itself.
-/

namespace TypedSearch

/-- How a layer of a document type is made. -/
inductive Form where
  | dataclass
  | frozen
  | plain
deriving DecidableEq, Repr

structure Member where
  name : String
  type : Declared
  default : Option Value
  /-- Whether the member is declared as a wire field, and under which name; the empty name stands
  for the member's own. -/
  wire : Option String
deriving DecidableEq

structure Layer where
  form : Form
  members : List Member
  /-- The names of the module around the layer while it is made. -/
  names : List (String × Declared) := []
  /-- A constructor written by hand. -/
  constructor : Option Signature := none
  /-- What is written by hand to follow the constructor of a dataclass. -/
  finish : Option Effect := none
  /-- The members that do not let themselves be set, with the faults of trying. -/
  refused : List (String × Fault) := []
deriving DecidableEq

/-- A document type: its layers from the lowest to its own, and the scope in which its annotations
are looked up. -/
structure DocumentType where
  className : ClassName
  layers : List Layer
  scope : Annotation.Scope
deriving DecidableEq

def Member.hasListDefault (m : Member) : Bool :=
  match m.default with
  | some (.list _) => true
  | _ => false

def Form.isDataclass : Form → Bool
  | .dataclass | .frozen => true
  | .plain => false

/-- Members with another one behind them. One that is declared again keeps its place, and its
default as well if it gets no new one. -/
def Member.joined (made : List Member) (m : Member) : List Member :=
  let kept : Member := match made.find? fun n ↦ n.name == m.name with
    | some old => if m.default.isSome || m.wire.isSome then m else { old with type := m.type }
    | none => m
  putNamed Member.name kept made

namespace Layer

/-- Does every document get the default of a member for itself? A dataclass hands out its lists so;
all other defaults are held by the class. -/
def handsOut (l : Layer) (m : Member) : Bool := l.form.isDataclass && m.hasListDefault

/-- What the class itself holds for the members of a layer. -/
def held (l : Layer) : List (String × Value) :=
  l.members.filterMap fun m ↦ if l.handsOut m then none else m.default.map fun v ↦ (m.name, v)

/-- The default that the class itself holds for a member of a layer. -/
def classValue? (l : Layer) (name : String) : Option Value := l.held.lookup name

def role (l : Layer) (m : Member) : Role :=
  match m.type with
  | .constant (.text s) | .constant (.code _ s _) => .ofText l.names s
  | t => .ofType t

end Layer

/-- The default that a row of layers, from the highest down, holds for a member. -/
def classValue? (layers : List Layer) (name : String) : Option Value :=
  layers.findSome? (·.classValue? name)

/-! ## Fields of a dataclass -/

/-- A member that a dataclass knows of. -/
structure DataField where
  name : String
  default : Option Value
  wire : Option String
  role : Role
deriving DecidableEq

namespace Layer

/-- What a member makes on top of some layers, the highest first. One that is no wire field and has
no default takes over the one that the class has for it from below. -/
def field (l : Layer) (below : List Layer) (m : Member) : DataField where
  name := m.name
  default := match m.default, m.wire with
    | none, none => TypedSearch.classValue? below m.name
    | d, _ => d
  wire := m.wire
  role := l.role m

/-- Why a dataclass on top of some layers, the highest first, refuses a member: only a field can
hand out a list, and a list that the class has from below cannot become its default. -/
def fault? (l : Layer) (below : List Layer) (m : Member) : Option Fault :=
  if l.role m != .field then
    if m.hasListDefault then
      some (.wrongType ("field " ++ m.name ++ " cannot have a default factory"))
    else none
  else match (l.field below m).default with
    | some (.list _) =>
      if m.hasListDefault then none
      else some (.badValue ("mutable default <class 'list'> for field " ++ m.name ++
        " is not allowed: use default_factory"))
    | _ => none

end Layer

/-- The members that the dataclasses among a row of layers, the highest first, know of. A member
that is declared again keeps its place. -/
def dataMembers : List Layer → List DataField
  | [] => []
  | l :: below =>
    if l.form.isDataclass then
      l.members.foldl (fun fields m ↦ putNamed DataField.name (l.field below m) fields)
        (dataMembers below)
    else dataMembers below

/-- The fields of a row of layers, the highest first. -/
def dataFields (layers : List Layer) : List DataField :=
  (dataMembers layers).filter (·.role == .field)

/-- What the constructor of a dataclass takes: the fields, and what is only handed to it. -/
def dataArguments (layers : List Layer) : List DataField :=
  (dataMembers layers).filter (·.role != .ofClass)

/-- The form of the highest dataclass among the layers, the highest first. -/
def dataForm? (layers : List Layer) : Option Form :=
  (layers.find? (·.form.isDataclass)).map Layer.form

/-- Does a field without a default follow one with a default? -/
def misordered : List DataField → Bool
  | [] => false
  | f :: fs => f.default.isSome && fs.any (·.default.isNone) || misordered fs

/-! ## Setting members -/

/-- The name under which a class keeps what sets the members of its objects. -/
def setterName : String := "__setattr__"

/-- The name under which a class keeps what removes the members of its objects. -/
def removerName : String := "__delattr__"

/-- The name under which a class keeps what follows the constructor of a dataclass. -/
def finisherName : String := "__post_init__"

def notCallable : Fault := .wrongType "object is not callable"

/-- Why what the layers, the highest first, keep for setting members refuses one. A plain value
cannot be called. A frozen dataclass refuses all members of its own documents, and its fields for
documents of layers on top of it. -/
def setterRefusal? (member : String) : Bool → List Layer → Option Fault
  | _, [] => none
  | isOwn, l :: below =>
    if (l.classValue? setterName).isSome then some notCallable
    else if l.form == .frozen && (isOwn || (dataFields (l :: below)).any (·.name == member)) then
      some (.foreign "FrozenInstanceError" ("cannot assign to field '" ++ member ++ "'"))
    else setterRefusal? member false below

/-- Why a member does not let itself be set in documents of some layers, the highest first. -/
def memberRefusal? (layers : List Layer) (member : String) : Option Fault :=
  layers.findSome? (·.refused.lookup member)

/-- What a layer brings along to follow the constructor of a dataclass. -/
def Layer.finisher? (l : Layer) : Option Effect :=
  l.finish <|> (l.classValue? finisherName).map fun _ ↦ .fails notCallable

namespace DocumentType

def name (t : DocumentType) : String := t.className.name

def fromTop (t : DocumentType) : List Layer := t.layers.reverse

def isDataclass (t : DocumentType) : Bool := t.layers.any (·.form.isDataclass)

def isFrozen (t : DocumentType) : Bool := dataForm? t.fromTop == some .frozen

/-- Why documents of the type do not let a member be set, if they do not. -/
def refusal? (t : DocumentType) (member : String) : Option Fault :=
  setterRefusal? member true t.fromTop <|> memberRefusal? t.fromTop member

/-- The constructor that comes with a dataclass on top of some layers, the highest first, when it is
called for documents of the type. It sets the fields one after the other, past the setter of a
frozen dataclass. What follows is looked up from the top of the type, if there was any when the
dataclass was made. -/
def dataConstructor (t : DocumentType) (l : Layer) (below : List Layer) : Signature where
  parameters := (dataArguments (l :: below)).map fun f ↦ ⟨f.name, .positional, f.default⟩
  kept := (dataFields (l :: below)).map DataField.name
  effect :=
    let refusal? := if l.form == .frozen then memberRefusal? t.fromTop else t.refusal?
    match (dataFields (l :: below)).findSome? fun f ↦ refusal? f.name with
    | some fault => .fails fault
    | none =>
      if (l :: below).any (·.finisher?.isSome) then
        (t.fromTop.findSome? Layer.finisher?).getD (.sets [])
      else .sets []

/-- The nearest constructor in a row of layers, the highest first, that is written by hand or comes
with a dataclass, when it is called for documents of the type. -/
def constructorFrom (t : DocumentType) : List Layer → Signature
  | [] => .empty
  | l :: below => match l.constructor with
    | some signature => signature
    | none => if l.form.isDataclass then t.dataConstructor l below else t.constructorFrom below

def constructor (t : DocumentType) : Signature := t.constructorFrom t.fromTop

def declared (t : DocumentType) : Declared :=
  .document ⟨t.className, t.constructor, (dataFields t.fromTop).map DataField.name,
    t.fromTop.flatMap Layer.held, 1 < t.layers.length⟩

/-- Adds a layer on top of the layers of `base`. A dataclass may refuse one of its members; it may
not be frozen on one that is not, nor the other way round, and none may have a field without a
default after one with a default, nor a field whose name is no name. One that is frozen refuses to
set members in its own way only. -/
def declare (className : ClassName) (base : List Layer) (layer : Layer) :
    Except Fault DocumentType :=
  let layer := { layer with members := layer.members.foldl Member.joined [] }
  let layers := base ++ [layer]
  let t : DocumentType := ⟨className, layers, .empty⟩
  if !layer.form.isDataclass then .ok t
  else if let some fault := layer.members.findSome? (layer.fault? base.reverse) then .error fault
  else if base.any (·.form == .frozen) && layer.form != .frozen then
    .error (.wrongType "cannot inherit non-frozen dataclass from a frozen one")
  else if base.any (·.form == .dataclass) && !base.any (·.form == .frozen) &&
    layer.form == .frozen then
    .error (.wrongType "cannot inherit frozen dataclass from a non-frozen one")
  else if misordered (dataArguments layers.reverse) then
    .error (.wrongType "non-default argument follows default argument")
  else if (dataArguments layers.reverse).any fun f ↦ !Text.isName f.name then .error .badMemberName
  else if layer.form == .frozen && [setterName, removerName].any
    (layer.classValue? · |>.isSome) then
    .error (.wrongType ("Cannot overwrite attribute in class " ++ t.name))
  else .ok t

/-- The class of a value that is no document: it has no members. -/
def ofClass (className : ClassName) (required : List String) : DocumentType :=
  let parameters : List Parameter := required.map fun n ↦ ⟨n, .positional, none⟩
  ⟨className, [{ form := .plain, members := [], constructor := some ⟨parameters, [], .sets []⟩ }],
    .empty⟩

end DocumentType

end TypedSearch
