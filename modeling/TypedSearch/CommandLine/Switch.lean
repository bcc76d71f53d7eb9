import TypedSearch.Text.Blank
import TypedSearch.Text.Digit

/-!
# Switches

The words of a command line that start with two dashes: switches with or without a value. A name may
be shortened as far as it stays unambiguous, and a value may stand in the next word or, after an
equals sign, in the same one. Words that look like negative numbers or hold a space are no switches,
even if a dash stands in front.

All words are looked at for ambiguous ones first. Then they are taken in order, and what comes
first, a call for help or a switch that is wrong, decides; words that mean nothing count only in the
end.
-/

namespace TypedSearch.CommandLine

open Text

/-- A switch: its name, and whether a value belongs to it. -/
structure Switch where
  name : String
  takesValue : Bool
deriving DecidableEq, Repr

def helpSwitch : Switch := ⟨"--help", false⟩

/-- Why words are not taken as a command. -/
inductive Stop where
  | usage
  | help
deriving DecidableEq, Repr

inductive Word where
  | plain
  | help
  /-- A switch, perhaps with its value. -/
  | switch (s : Switch) (value : Option String)
  /-- A word that starts like a switch and is none. -/
  | unknown
  /-- The beginning of more than one switch. -/
  | ambiguous
  /-- A switch with a value that it does not take. -/
  | wrong
  /-- The word after which all others are plain. -/
  | ending
deriving DecidableEq, Repr

/-- Is the text a minus sign with a number behind it? A line feed may follow. -/
def isNegativeNumber (cs : List Char) : Bool :=
  match cs with
  | '-' :: cs =>
    let cs := if cs.getLast? == some '\n' then cs.dropLast else cs
    let isRow (ds : List Char) := !ds.isEmpty && ds.all isDigit
    match cut '.' cs with
    | (whole, none) => isRow whole
    | (whole, some fraction) => whole.all isDigit && isRow fraction
  | _ => false

/-- A switch that was found by its name, with the value attached to it. -/
def Word.ofSwitch (s : Switch) (value : Option String) : Word :=
  if s.takesValue then .switch s value
  else match value with
    | none => if s == helpSwitch then .help else .switch s none
    | some _ => .wrong

/-- What a word with two dashes in front is, if it is the name of a switch or the beginning of
one. -/
def longWord? (switches : List Switch) (cs : List Char) : Option Word :=
  let (name, value) := cut '=' cs
  let value := value.map String.ofList
  match switches.find? (·.name.toList == cs) with
  | some s => some (.ofSwitch s none)
  | none => match switches.find? (·.name.toList == name) with
    | some s => some (.ofSwitch s value)
    | none => match switches.filter (name.isPrefixOf ·.name.toList) with
      | [] => none
      | [s] => some (.ofSwitch s value)
      | _ => some .ambiguous

/-- What a word is that starts with the letter for help: more of them may follow, the first perhaps
after an equals sign. -/
def helpWord : List Char → Word
  | ['='] => .wrong
  | '=' :: cs | cs => if cs.all (· == 'h') then .help else .wrong

def Word.of (switches : List Switch) (word : String) : Word :=
  let cs := word.toList
  match cs with
  | ['-', '-'] => .ending
  | '-' :: 'h' :: cs => helpWord cs
  | '-' :: c :: _ =>
    match if c == '-' then longWord? switches cs else none with
    | some w => w
    | none => if isNegativeNumber cs || cs.contains ' ' then .plain else .unknown
  | _ => .plain

/-- A switch as it was given, with its value; the value of a switch that takes none is empty. -/
abbrev Given := String × String

/-- What words may be given: the switches, which values of them are accepted after others, and
whether a plain word begins a command. -/
structure Grammar where
  switches : List Switch
  accepts : List Given → Given → Bool
  hasCommand : Bool

/-- What has been made of the words so far: the switches given, whether there were words that mean
nothing, and the words from the command on. -/
structure Reading where
  given : List Given
  hasExtra : Bool
  rest : List String
deriving DecidableEq, Repr

/-- Is one of the words ambiguous? Those after the ending word are not looked at. -/
def anyAmbiguous (switches : List Switch) : List String → Bool
  | [] => false
  | w :: ws => match Word.of switches w with
    | .ambiguous => true
    | .ending => false
    | _ => anyAmbiguous switches ws

def takeWords (g : Grammar) : Reading → List String → Except Stop Reading
  | r, [] => .ok r
  | r, w :: ws =>
    match Word.of g.switches w with
    | .help => .error .help
    | .ambiguous | .wrong => .error .usage
    | .ending => if g.hasCommand then .error .usage else .ok { r with hasExtra := true }
    | .unknown => takeWords g { r with hasExtra := true } ws
    | .plain =>
      if g.hasCommand then .ok { r with rest := w :: ws }
      else takeWords g { r with hasExtra := true } ws
    | .switch s (some value) =>
      if g.accepts r.given (s.name, value) then
        takeWords g { r with given := r.given ++ [(s.name, value)] } ws
      else .error .usage
    | .switch s none =>
      if s.takesValue then
        match ws with
        | [] => .error .usage
        | value :: ws =>
          if Word.of g.switches value == .plain && g.accepts r.given (s.name, value) then
            takeWords g { r with given := r.given ++ [(s.name, value)] } ws
          else .error .usage
      else takeWords g { r with given := r.given ++ [(s.name, "")] } ws

def readWords (g : Grammar) (words : List String) : Except Stop Reading :=
  if anyAmbiguous g.switches words then .error .usage else takeWords g ⟨[], false, []⟩ words

def readSwitches (g : Grammar) (words : List String) : Except Stop (List Given) := do
  let r ← readWords g words
  if r.hasExtra then .error .usage else return r.given

def valuesOf (given : List Given) (name : String) : List String :=
  (given.filter (·.1 == name)).map (·.2)

def valueOf? (given : List Given) (name : String) : Option String := (valuesOf given name).getLast?

def isGiven (given : List Given) (name : String) : Bool := !(valuesOf given name).isEmpty

def readValue {α : Type} (read : String → Option α) (given : List Given) (name : String) :
    Option α :=
  (valueOf? given name).bind read

end TypedSearch.CommandLine
