import TypedSearch.Document.Schema

/-!
# Registry

Schemas that have been built are kept, so that a document type is inspected once. A type whose
schema cannot be built is not kept, and fails again whenever it is asked for.

A `Resolving` computation looks schemas up on its way. What it adds to the registry and the notes it
takes stay, even if it fails later.

## What is covered

The operations `register` and `resolve` and containment, each with the registry that it leaves
behind. A kept schema is the same object on every access; its place among the entries stands for
that.
-/

namespace TypedSearch

/-- The schemas built so far, each with its document type. -/
structure Registry where
  entries : List (DocumentType × Schema)
deriving DecidableEq

namespace Registry

def empty : Registry := ⟨[]⟩

def get? (r : Registry) (t : DocumentType) : Option Schema := r.entries.lookup t

def insert (r : Registry) (s : Schema) : Registry := ⟨r.entries ++ [(s.type, s)]⟩

/-- The schema of what is offered as a document type, built and kept if it is the first time,
together with the registry that keeps it and the note taken on building it. -/
def resolve (r : Registry) (c : Candidate) :
    Except Fault (Schema × Registry × List Journal.Note) := do
  c.checkHashable
  let t ← c.type?
  match r.get? t with
  | some s => return (s, r, [])
  | none =>
    let s ← Schema.build t
    return (s, r.insert s, [Schema.resolvedNote t s.fields.length])

def contains (r : Registry) (c : Candidate) : Except Fault Bool := do
  c.checkHashable
  match c with
  | .type t => return (r.get? t).isSome
  | .value _ => return false

/-- Where a registry keeps the schema of a document type, or would keep it next. A schema that is
built gets a place of its own, which tells it from all others, equal ones included. -/
def place (r : Registry) (t : DocumentType) : Nat := r.entries.findIdx fun e ↦ e.1 == t

/-! ## Accesses one after the other -/

inductive Access where
  | register (c : Candidate)
  /-- Asks for a schema and registers it on first use. -/
  | resolve (c : Candidate)
  | contains (c : Candidate)
deriving DecidableEq

inductive Reply where
  /-- A schema and the place where it is kept. -/
  | schema (place : Nat) (s : Schema)
  | contained (b : Bool)
deriving DecidableEq

/-- Replies to an access; one that fails leaves the registry as it is. -/
def perform (r : Registry) : Access → Traced Reply × Registry
  | .register c | .resolve c => match r.resolve c with
    | .ok (s, r, notes) => (⟨notes, .ok (.schema (r.place s.type) s)⟩, r)
    | .error e => (.fail e, r)
  | .contains c => (.ofExcept ((r.contains c).map .contained), r)

/-- Replies to accesses one after the other; what fails does not keep the next ones from their
replies. -/
def performAll (r : Registry) : List Access → List (Traced Reply) × Registry
  | [] => ([], r)
  | a :: as =>
    let (reply, r) := r.perform a
    let (replies, r) := r.performAll as
    (reply :: replies, r)

end Registry

/-- The registry and the notes taken so far. -/
structure Ledger where
  registry : Registry
  notes : List Journal.Note
deriving DecidableEq

abbrev Resolving := ExceptT Fault (StateM Ledger)

namespace Resolving

variable {α : Type}

def ofExcept (x : Except Fault α) : Resolving α := ExceptT.mk (pure x)

def note (n : Journal.Note) : Resolving Unit := modify fun l ↦ { l with notes := l.notes ++ [n] }

def resolve (c : Candidate) : Resolving Schema := do
  let (s, registry, notes) ← ofExcept ((← get).registry.resolve c)
  set (Ledger.mk registry ((← get).notes ++ notes))
  return s

@[simp] theorem run_ofExcept (x : Except Fault α) (l : Ledger) :
    (ofExcept x).run.run l = (x, l) := rfl

end Resolving

end TypedSearch
