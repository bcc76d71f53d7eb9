import TypedSearch.Text.Blank

/-!
# Letter case

What the methods of texts that take nothing else make of one: a change of the letter case of ASCII,
or the text without the blanks around it.

## What is covered

Letter case beyond ASCII is not worked out: what a method makes of such a text is none, unless it
leaves letter case alone.
-/

namespace TypedSearch

/-- A method that makes a text of a text. -/
inductive TextMethod where
  | upper
  | lower
  | casefold
  | capitalize
  | title
  | swapcase
  | strip
  | lstrip
  | rstrip
deriving DecidableEq, Repr

namespace TextMethod

open Text

def all : List (String × TextMethod) := [
  ("upper", .upper), ("lower", .lower), ("casefold", .casefold), ("capitalize", .capitalize),
  ("title", .title), ("swapcase", .swapcase), ("strip", .strip), ("lstrip", .lstrip),
  ("rstrip", .rstrip)]

def swapped (c : Char) : Char := if c.isUpper then c.toLower else c.toUpper

/-- The first letter of each word in upper case and the others in lower case. -/
def titled (isInside : Bool) : List Char → List Char
  | [] => []
  | c :: cs => (if isInside then c.toLower else c.toUpper) :: titled c.isAlpha cs

def applyTo (m : TextMethod) (cs : List Char) : List Char :=
  match m with
  | .upper => cs.map Char.toUpper
  | .lower | .casefold => cs.map Char.toLower
  | .capitalize => match cs with
    | [] => []
    | c :: cs => c.toUpper :: cs.map Char.toLower
  | .title => titled false cs
  | .swapcase => cs.map swapped
  | .strip => trim cs
  | .lstrip => cs.dropWhile isBlank
  | .rstrip => stripEnd isBlank cs

/-- Does the method leave letter case alone? -/
def isStripping : TextMethod → Bool
  | .strip | .lstrip | .rstrip => true
  | _ => false

/-- What the method makes of a text, unless that takes the letter case of other letters than
ASCII. -/
def applied? (m : TextMethod) (s : String) : Option String :=
  if m.isStripping || s.toList.all (·.toNat < 128) then some (.ofList (m.applyTo s.toList))
    else none

def name (m : TextMethod) : String := ((all.find? (·.2 == m)).map Prod.fst).getD ""

example : applied? .title "two words" = some "Two Words" ∧ applied? .upper "ß" = none := by
  decide +kernel

end TextMethod

end TypedSearch
