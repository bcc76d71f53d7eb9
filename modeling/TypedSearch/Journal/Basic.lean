import TypedSearch.Fault

/-!
# Journal

What is noted down while documents are mapped and requests are sent. A `Traced` computation carries
its notes beside its result, and the notes written before a failure are kept. What a function prints
that stands for the type of a member is kept among the notes, in its place.

## What is covered

Notes carry their level, where they come from and what they say. When they were taken is left out.
-/

namespace TypedSearch

namespace Journal

/-- How much a note matters. -/
inductive Level where
  | debug
  | info
  | warning
  | error
  | critical
deriving DecidableEq, Repr

def Level.rank : Level → Nat
  | .debug => 10
  | .info => 20
  | .warning => 30
  | .error => 40
  | .critical => 50

def Level.name : Level → String
  | .debug => "DEBUG"
  | .info => "INFO"
  | .warning => "WARNING"
  | .error => "ERROR"
  | .critical => "CRITICAL"

/-- Who writes notes. -/
inductive Source where
  | schema
  | mapper
  | parser
  | query
  | update
  | connection
  | commandLine
  /-- The type of a member, which prints instead. -/
  | output
deriving DecidableEq, Repr

def Source.name : Source → String
  | .schema => "solr_mapper.schema"
  | .mapper => "solr_mapper.mapper"
  | .parser => "solr_mapper.parser"
  | .query => "solr_mapper.query"
  | .update => "solr_mapper.update"
  | .connection => "solr_mapper.connection"
  | .commandLine => "solr_mapper.cli"
  | .output => "stdout"

structure Note where
  level : Level
  source : Source
  message : String
deriving DecidableEq, Repr

def Note.line (n : Note) : String := n.level.name ++ " " ++ n.source.name ++ ": " ++ n.message

def Note.ofPrinted (line : String) : Note := ⟨.info, .output, line⟩

def Note.isPrinted (n : Note) : Bool := n.source == .output

/-- The lines of the notes that matter at least as much as `least`. -/
def linesFrom (least : Nat) (notes : List Note) : List String :=
  (notes.filter fun n ↦ !n.isPrinted && least ≤ n.level.rank).map Note.line

def printed (notes : List Note) : String :=
  String.join ((notes.filter Note.isPrinted).map fun n ↦ n.message ++ "\n")

end Journal

/-- A computation that may fail and takes notes on the way. -/
@[ext]
structure Traced (α : Type) where
  notes : List Journal.Note
  result : Except Fault α

namespace Traced

variable {α β : Type}

def fail (f : Fault) : Traced α := ⟨[], .error f⟩

def ofExcept (x : Except Fault α) : Traced α := ⟨[], x⟩

def note (n : Journal.Note) : Traced Unit := ⟨[n], .ok ()⟩

def tell (ns : List Journal.Note) : Traced Unit := ⟨ns, .ok ()⟩

def andThen (x : Traced α) (f : α → Traced β) : Traced β :=
  match x.result with
  | .error e => ⟨x.notes, .error e⟩
  | .ok a => ⟨x.notes ++ (f a).notes, (f a).result⟩

instance : Monad Traced where
  pure a := ⟨[], .ok a⟩
  bind := andThen

@[simp] theorem result_pure (a : α) : (pure a : Traced α).result = .ok a := rfl

@[simp] theorem notes_pure (a : α) : (pure a : Traced α).notes = [] := rfl

@[simp] theorem result_ofExcept (x : Except Fault α) : (ofExcept x).result = x := rfl

@[simp] theorem notes_ofExcept (x : Except Fault α) : (ofExcept x).notes = [] := rfl

@[simp] theorem result_note (n : Journal.Note) : (note n).result = .ok () := rfl

@[simp] theorem notes_note (n : Journal.Note) : (note n).notes = [n] := rfl

@[simp] theorem result_tell (ns : List Journal.Note) : (tell ns).result = .ok () := rfl

@[simp] theorem notes_tell (ns : List Journal.Note) : (tell ns).notes = ns := rfl

@[simp] theorem result_fail (f : Fault) : (fail f : Traced α).result = .error f := rfl

@[simp] theorem notes_fail (f : Fault) : (fail f : Traced α).notes = [] := rfl

/-- The result of a sequence is the sequence of the results. -/
@[simp] theorem result_bind (x : Traced α) (f : α → Traced β) :
    (x >>= f).result = x.result >>= fun a ↦ (f a).result := by
  show (andThen x f).result = _
  unfold andThen
  cases x.result <;> rfl

end Traced

end TypedSearch
