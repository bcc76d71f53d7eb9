import TypedSearch.CommandLine.Switch
import TypedSearch.Number.Binary64
import TypedSearch.Number.Whole
import TypedSearch.Update

/-!
# Arguments

What a command line asks for: switches for the connection, then a command with switches of its own.
-/

namespace TypedSearch.CommandLine

inductive Command where
  | query (type text : String) (sort : Option String) (start rows : Option Int) (strict : Bool)
  | deleteByIds (ids : List String)
  | deleteByQuery (text : String)
  | flush (f : Update.Flush) (w : Update.Waiting)
deriving DecidableEq

structure Invocation where
  url : Option String
  timeout : Option Binary64
  command : Option Command
deriving DecidableEq

/-! ## The switches -/

def connectionSwitches : List Switch := [helpSwitch, ⟨"--url", true⟩, ⟨"--timeout", true⟩]

def querySwitches : List Switch :=
  [helpSwitch, ⟨"--type", true⟩, ⟨"--q", true⟩, ⟨"--sort", true⟩, ⟨"--start", true⟩,
    ⟨"--rows", true⟩, ⟨"--strict", false⟩]

def deleteSwitches : List Switch := [helpSwitch, ⟨"--id", true⟩, ⟨"--query", true⟩]

def flushSwitches : List Switch :=
  [helpSwitch, ⟨"--wait-flush", false⟩, ⟨"--wait-searcher", false⟩]

/-! ## Commands -/

def connectionGrammar : Grammar where
  switches := connectionSwitches
  accepts := fun _ g ↦ g.1 != "--timeout" || (Binary64.readPadded g.2).isSome
  hasCommand := true

/-- The words of a query: where to start and how many rows to take are whole numbers. -/
def queryGrammar : Grammar where
  switches := querySwitches
  accepts := fun _ g ↦ (g.1 != "--start" && g.1 != "--rows") || (Whole.readPadded g.2).isSome
  hasCommand := false

/-- The words of a deletion: it is by identifiers or by a query, and not by both. -/
def deleteGrammar : Grammar where
  switches := deleteSwitches
  accepts := fun given g ↦ given.all (·.1 == g.1)
  hasCommand := false

/-- The words of a command that makes changes visible. -/
def flushGrammar : Grammar where
  switches := flushSwitches
  accepts := fun _ _ ↦ true
  hasCommand := false

/-- A query from its words; type and text have to be given. -/
def readQuery (words : List String) : Except Stop Command := do
  let given ← readSwitches queryGrammar words
  match valueOf? given "--type", valueOf? given "--q" with
  | some type, some text =>
    return .query type text (valueOf? given "--sort") (readValue Whole.readPadded given "--start")
      (readValue Whole.readPadded given "--rows") (isGiven given "--strict")
  | _, _ => .error .usage

def readDelete (words : List String) : Except Stop Command := do
  let given ← readSwitches deleteGrammar words
  match valuesOf given "--id", valueOf? given "--query" with
  | [], some text => return .deleteByQuery text
  | id :: ids, none => return .deleteByIds (id :: ids)
  | _, _ => .error .usage

def wishOf (given : List Given) (name : String) : Option Bool :=
  if isGiven given name then some true else none

/-- A command that makes changes visible from its words. -/
def readFlush (f : Update.Flush) (words : List String) : Except Stop Command := do
  let given ← readSwitches flushGrammar words
  return .flush f ⟨wishOf given "--wait-flush", wishOf given "--wait-searcher"⟩

def readCommand (name : String) (words : List String) : Except Stop Command :=
  match name with
  | "query" => readQuery words
  | "delete" => readDelete words
  | "commit" => readFlush .commit words
  | "optimize" => readFlush .optimize words
  | _ => .error .usage

def Invocation.read (words : List String) : Except Stop Invocation := do
  let r ← readWords connectionGrammar words
  let command ← match r.rest with
    | [] => pure none
    | name :: words => (readCommand name words).map some
  if r.hasExtra then .error .usage
  else return ⟨valueOf? r.given "--url", readValue Binary64.readPadded r.given "--timeout", command⟩

def usage : String :=
  "usage: typed-search [--url URL] [--timeout SECONDS] COMMAND\n\n" ++
    "  query --type MODULE:CLASS --q TEXT [--sort KEYS] [--start N] [--rows N] [--strict]\n" ++
    "  delete (--id ID ... | --query TEXT)\n" ++
    "  commit [--wait-flush] [--wait-searcher]\n" ++
    "  optimize [--wait-flush] [--wait-searcher]\n"

end TypedSearch.CommandLine
