import TypedSearch.Client.Session
import TypedSearch.CommandLine.Arguments
import TypedSearch.CommandLine.Catalogue
import TypedSearch.Http
import TypedSearch.Json

/-!
# Running a command line

A command line is read, its connection set up and its command performed. Whatever goes wrong on the
way is printed as an object with the class and wording of the fault.

## What is covered

`run` is the program from its words to its exit status: address and time limit, the command, and the
one object that is printed. What is logged is carried as notes of the report.
-/

namespace TypedSearch.CommandLine

open Query Settings

/-! ## Printing documents -/

def missingMember {α : Type} (family member : String) : Except Fault α :=
  .error (.noAttribute ("'" ++ family ++ "' object has no attribute '" ++ member ++ "'"))

mutual

/-- A value as it is printed: what JSON has no form for is printed as its text. The values of a
dataclass are copied first, documents inside it as objects. -/
def valueJson (isCopied : Bool) : Value → Except Fault Json
  | .null => .ok .null
  | .bool b => .ok (.bool b)
  | .int n => if Whole.Writable n then .ok (.int n) else .error .tooManyDigits
  | .float x => .ok (.float x)
  | .text s | .code _ s _ => .ok (.text s)
  | .symbol family name v whole =>
    if whole then valueJson isCopied v else (Value.symbol family name v whole).display?.map .text
  | .list xs | .tuple xs => (valuesJson isCopied xs).map .array
  | .record family names values absent => match absent with
    | some member => missingMember family member
    | none =>
      if isCopied then (valuesJson isCopied values).map fun vs ↦ .object (names.zip vs)
      else (Value.record family names values none).display?.map .text
  | .thing t =>
    if isCopied && !t.isCopied then
      .error (.wrongType ("cannot pickle '" ++ t.family ++ "' object"))
    else .ok (.text t.shown)
  | v => v.display?.map .text

def valuesJson (isCopied : Bool) : List Value → Except Fault (List Json)
  | [] => .ok []
  | v :: vs => do
    let x ← valueJson isCopied v
    return x :: (← valuesJson isCopied vs)

end

/-- The members of a document that are printed: the fields of a dataclass, or whatever was set on
another document except for its own affairs. -/
def printedMembers (d : Document) : Except Fault (List (String × Value)) :=
  if d.type.isDataclass then
    (dataFields d.type.fromTop).mapM fun f ↦ match d.get? f.name with
      | some v => .ok (f.name, v)
      | none => missingMember d.type.name f.name
  else .ok (d.members.filter fun m ↦ m.1.toList.head? != some '_')

def documentJson (d : Document) : Except Fault Json := do
  let members ← printedMembers d
  let values ← valuesJson d.type.isDataclass (members.map Prod.snd)
  return .object ((members.map Prod.fst).zip values)

/-! ## Reports -/

/-- What a run leaves behind. -/
structure Report where
  exitCode : Nat
  /-- What the run itself prints, at its end. -/
  output : String
  notes : List Journal.Note
deriving DecidableEq, Repr

/-- All that stands on the standard output after a run: what the types of members printed on the way
comes first. -/
def Report.standardOutput (r : Report) : String := Journal.printed r.notes ++ r.output

/-- The exit codes: all is well, the words were not understood, something failed. -/
inductive Ending where
  | done
  | misused
  | failed
deriving DecidableEq, Repr

def Ending.code : Ending → Nat
  | .done => 0
  | .misused => 2
  | .failed => 3

def errorJson (message : String) : Json :=
  .object [("status", .text "error"), ("error", .text message)]

def errorLine (message : String) : String := (errorJson message).render ++ "\n"

/-- What is printed for an answer: documents on many lines, anything else on one. -/
def answerText : Answer → Except Fault String
  | .page r => do
    let documents ← r.documents.mapM documentJson
    return (Json.object [("status", .text "ok"), ("total_found", .int r.totalFound),
      ("documents", .array documents)]).renderBlock ++ "\n"
  | .reply text =>
    .ok ((Json.object [("status", .text "ok"), ("response", .text text)]).render ++ "\n")
  | .schema _ => .ok ""

def faultReport (notes : List Journal.Note) (f : Fault) : Report :=
  ⟨Ending.failed.code, errorLine (f.kind ++ ": " ++ f.message), notes⟩

def answerReport (notes : List Journal.Note) (answer : Except Fault Answer) : Report :=
  match answer.bind answerText with
  | .ok text => ⟨Ending.done.code, text, notes⟩
  | .error f => faultReport notes f

def stopReport : Stop → Report
  | .usage => ⟨Ending.misused.code, "", []⟩
  | .help => ⟨Ending.done.code, usage, []⟩

def missingReport (notes : List Journal.Note) : Report :=
  ⟨Ending.misused.code, errorLine "Unknown command: None", notes⟩

/-! ## Running -/

def Command.operation (catalogue : Catalogue) : Command → Except Fault (Client × Operation)
  | .query type text sort start rows strict => do
    let t ← catalogue.documentType type
    let sort ← match sort with
      | none => pure SortInput.none
      | some s => if s.isEmpty then pure SortInput.none else (Sorting.parse s).map .sorting
    return (⟨strict, false⟩,
      .search (.type t) (.text text) sort (start.map .int) (rows.map .int))
  | .deleteByIds ids => .ok (⟨false, false⟩, .deleteByIds (ids.map .text))
  | .deleteByQuery text => .ok (⟨false, false⟩, .deleteByQuery (.text text))
  | .flush f w => .ok (⟨false, false⟩, .flush f w)

variable {σ : Type}

def Command.run (catalogue : Catalogue) (connection : Connection σ) (link : σ)
    (notes : List Journal.Note) (c : Command) : Report × σ :=
  match c.operation catalogue with
  | .error f => (faultReport notes f, link)
  | .ok (client, operation) =>
    let (answer, s) := (Session.start link).perform client connection operation
    (answerReport (notes ++ answer.notes) answer.result, s.link)

def Invocation.run (catalogue : Catalogue) (environment : Environment)
    (session : Http.Message → σ → Http.Outcome × σ) (link : σ) (i : Invocation) : Report × σ :=
  let timeout := environment.timeout (i.timeout.map .float)
  match timeout.result with
  | .error f => (faultReport timeout.notes f, link)
  | .ok seconds =>
    let endpoint := Http.Endpoint.of environment.process (some (environment.url i.url)) seconds
    match i.command with
    | none => (missingReport timeout.notes, link)
    | some c => c.run catalogue (endpoint.connection session) link timeout.notes

def run (catalogue : Catalogue) (environment : Environment)
    (session : Http.Message → σ → Http.Outcome × σ) (link : σ) (words : List String) : Report × σ :=
  match Invocation.read words with
  | .error stop => (stopReport stop, link)
  | .ok i => i.run catalogue environment session link

end TypedSearch.CommandLine
