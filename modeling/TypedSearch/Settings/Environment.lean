import TypedSearch.Journal.Basic
import TypedSearch.Settings.Dotenv
import TypedSearch.Value.Display
import TypedSearch.Value.Order

/-!
# Environment

Where the server is and how long to wait for it, from what the caller says, the variables of the
process and those of a file beside it, in this order. The variables of the process alone decide the
defaults of a connection.

## What is covered

`url` and `timeout` choose as the command line does, `processUrl` and `processTimeout` as a
connection does that is made without arguments. The variables are those that the program starts
with.
-/

namespace TypedSearch.Settings

open Text

/-- The variables of the process and of the file beside it. -/
structure Environment where
  process : Variables
  file : Variables
deriving DecidableEq, Repr

def urlVariable : String := "SOLR_URL"

/-- The variable that tells how many seconds to wait. -/
def timeoutVariable : String := "SOLR_HTTP_TIMEOUT"

/-- Where the server is unless something else is said. -/
def defaultUrl : String := "http://localhost:8983/solr"

def withoutTrailingSlashes (s : String) : String := .ofList (stripEnd (· == '/') s.toList)

/-- A text without white space around it, unless nothing is left. -/
def meaningful? (s : String) : Option String :=
  if isBlankText s then none else some (trimmed s)

def Variables.meaningful? (vs : Variables) (key : String) : Option String :=
  (vs.lookup key).bind Settings.meaningful?

/-! ## What the process says -/

def processUrl (vs : Variables) : String :=
  withoutTrailingSlashes ((vs.meaningful? urlVariable).getD defaultUrl)

/-- The number of seconds to wait unless something else is said. -/
def defaultTimeout : Binary64 := .finite false 8444249301319680 (-49)

def isPositive (x : Binary64) : Bool :=
  match x with
  | .nan => false
  | x => !x.isZero && !x.isNegative

/-- The number of seconds to wait; a value that is no positive number does not count. -/
def processTimeout (vs : Variables) : Binary64 :=
  match vs.meaningful? timeoutVariable with
  | none => defaultTimeout
  | some s => match Binary64.readPadded s with
    | some x => if isPositive x then x else defaultTimeout
    | none => defaultTimeout

/-! ## What caller and environment say -/

namespace Environment

/-- The value of a variable: the process counts more than the file. -/
def get? (e : Environment) (key : String) : Option String :=
  e.process.meaningful? key <|> e.file.meaningful? key

def url (e : Environment) (explicit : Option String) : String :=
  withoutTrailingSlashes
    ((explicit.bind meaningful?).getD ((e.get? urlVariable).getD defaultUrl))

def ignoredNote (value source : String) : Journal.Note :=
  ⟨.warning, .commandLine, "Ignoring non-positive timeout " ++ value ++ " from " ++ source⟩

/-- A timeout, unless it is zero or below. -/
def positiveOrNone (v : Value) (source : String) : Traced (Option Value) := do
  if ← Traced.ofExcept v.isNonPositive then
    Traced.note (ignoredNote (← Traced.ofExcept v.display?) source)
    return none
  else return some v

/-- How long to wait, if caller or environment say so. -/
def timeout (e : Environment) (explicit : Option Value) : Traced (Option Value) :=
  match explicit with
  | some v => positiveOrNone v "--timeout"
  | none => match (e.get? timeoutVariable).bind Binary64.readPadded with
    | some x => positiveOrNone (.float x) timeoutVariable
    | none => pure none

end Environment

end TypedSearch.Settings
