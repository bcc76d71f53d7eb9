import TypedSearch.Document.Schema

/-!
# Documents

A document holds values of its own and falls back on those that its type holds for all documents.

## What is covered

`get?` reads a member, `assign` sets one, and `new` calls the constructor of the type without
arguments. The last two may fail, with the fault that the type has for it. Code that answers when a
member is read is not carried.
-/

namespace TypedSearch

/-- A document: its type and the members set on it, in the order they were first set. -/
structure Document where
  type : DocumentType
  members : List (String × Value)
deriving DecidableEq

namespace Document

/-- What a document holds for a member, of its own or by its type. -/
def get? (d : Document) (member : String) : Option Value :=
  d.members.lookup member <|> classValue? d.type.fromTop member

/-- What a document holds for a member; one that was never set counts as null. -/
def read (d : Document) (member : String) : Value := (d.get? member).getD .null

def set (d : Document) (member : String) (v : Value) : Document :=
  { d with members := putNamed Prod.fst (member, v) d.members }

/-- Sets a member, unless documents of the type do not let it be set. -/
def assign (d : Document) (member : String) (v : Value) : Except Fault Document :=
  match d.type.refusal? member with
  | none => .ok (d.set member v)
  | some f => .error f

/-- The document that holds nothing of its own. -/
def bare (t : DocumentType) : Document := ⟨t, []⟩

/-- The document that the constructor of a type makes when it is given nothing. -/
def new (t : DocumentType) : Except Fault Document :=
  (t.constructor.call t.constructor.applyNone?).map (⟨t, ·⟩)

end Document

/-- The class that a value belongs to, as a type without members. -/
def DocumentType.ofValue : Value → DocumentType
  | .null => .ofClass Base.null.className []
  | .bool _ => .ofClass Base.bool.className []
  | .int _ => .ofClass Base.int.className []
  | .float _ => .ofClass Base.float.className []
  | .complex _ => .ofClass ⟨"", "complex"⟩ []
  | .decimal _ => .ofClass Base.decimal.className []
  | .text _ => .ofClass Base.text.className []
  | .code family .. => .ofClass ⟨"", family⟩ []
  | .bytes _ => .ofClass Base.bytes.className []
  | .date _ => .ofClass Base.date.className []
  | .moment _ => .ofClass Base.moment.className []
  | .ratio _ => .ofClass Base.ratio.className []
  | .symbol family .. => .ofClass ⟨"", family⟩ ["value"]
  | .list _ => .ofClass Family.list.className []
  | .tuple _ => .ofClass Family.tuple.className []
  | .record family .. => .ofClass ⟨"", family⟩ []
  | .thing t => .ofClass ⟨"", t.family⟩ []

end TypedSearch
