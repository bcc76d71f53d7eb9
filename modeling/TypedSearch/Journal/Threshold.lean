import TypedSearch.Journal.Basic

/-!
# Thresholds

Which notes are written down. The first time a journal is opened the threshold is read from a
variable and, unless the host writes notes somewhere already, a writer is put in place; after that
both stay.
-/

namespace TypedSearch.Journal

def rootName : String := "solr_mapper"

def fullName (name : String) : String :=
  if name == rootName || name.startsWith (rootName ++ ".") then name else rootName ++ "." ++ name

def thresholdVariable : String := "SOLR_LOG_LEVEL"

/-- The upper-case form of a character, as far as it consists of ASCII letters; letters of other
scripts whose upper-case form is ASCII count. -/
def upperChar (c : Char) : List Char :=
  match c.toNat with
  | 0xDF => ['S', 'S']
  | 0x131 => ['I']
  | 0x17F => ['S']
  | 0xFB00 => ['F', 'F']
  | 0xFB01 => ['F', 'I']
  | 0xFB02 => ['F', 'L']
  | 0xFB03 => ['F', 'F', 'I']
  | 0xFB04 => ['F', 'F', 'L']
  | 0xFB05 | 0xFB06 => ['S', 'T']
  | _ => [c.toUpper]

def upper (s : String) : String := .ofList (s.toList.flatMap upperChar)

/-- The pattern by which notes are laid out unless the host has its own. -/
def layoutPattern : String := "%(levelname)s:%(name)s:%(message)s"

/-- The threshold with a name. Two names of the journal's own mean something that is no threshold; a
name that means nothing gives the default. -/
def thresholdNamed (name : String) : Except Fault Nat :=
  match upper name with
  | "CRITICAL" | "FATAL" => .ok Level.critical.rank
  | "ERROR" => .ok Level.error.rank
  | "WARNING" | "WARN" => .ok Level.warning.rank
  | "DEBUG" => .ok Level.debug.rank
  | "NOTSET" => .ok 0
  | "BASIC_FORMAT" => .error (.unknownLevel layoutPattern)
  | "_STYLES" => .error (.wrongType "Level not an integer or a valid string")
  | _ => .ok Level.info.rank

/-- Whether journals have been opened: the threshold they got, if so. -/
structure Setup where
  hostWrites : Bool
  threshold : Option Nat
deriving DecidableEq, Repr

namespace Setup

def installed (s : Setup) : Nat := if s.threshold.isSome && !s.hostWrites then 1 else 0

/-- Opens a journal, given the name of the threshold. -/
def ensure (s : Setup) (setting : Option String) : Except Fault Setup :=
  match s.threshold with
  | some _ => .ok s
  | none => (thresholdNamed (setting.getD "INFO")).map fun n ↦ { s with threshold := some n }

end Setup

end TypedSearch.Journal
