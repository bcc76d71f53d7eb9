import TypedSearch.Markup.Character
import TypedSearch.Number.Numeral

/-!
# Lexemes of markup

The small parts that markup is made of: names, references, quoted literals, comments and
instructions. Each reader takes its part off the front of a text and passes the rest on. Readers
that meet names ask for the letters of the text.
-/

namespace TypedSearch.Markup

open Text

/-- A text without the white space in front. -/
def skipSpace (cs : List Char) : List Char := cs.dropWhile isSpace

def after? : List Char → List Char → Option (List Char)
  | [], cs => some cs
  | _ :: _, [] => none
  | m :: ms, c :: cs => if m == c then after? ms cs else none

/-- The text before the first occurrence of a marker, and the text after it. -/
def splitAt? (marker : List Char) : List Char → Option (List Char × List Char)
  | [] => if marker.isEmpty then some ([], []) else none
  | c :: cs => match after? marker (c :: cs) with
    | some rest => some ([], rest)
    | none => (splitAt? marker cs).map fun (a, b) ↦ (c :: a, b)

def takeName (letters : Alphabet) : List Char → Option (List Char × List Char)
  | [] => none
  | c :: cs =>
    if isNameStart letters c then
      some (c :: cs.takeWhile (isNameChar letters), cs.dropWhile (isNameChar letters))
    else none

/-- Takes a name that one colon may divide into a prefix and a local part. -/
def takeQualified (letters : Alphabet) (cs : List Char) :
    Option (List Char × List Char) := do
  let (a, cs) ← takeName letters cs
  match cs with
  | ':' :: cs => do
    let (b, cs) ← takeName letters cs
    return (a ++ ':' :: b, cs)
  | _ => return (a, cs)

/-! ## References -/

/-- What an ampersand begins: a character by its number, or an entity by its name. -/
inductive Reference where
  | char (c : Char)
  | entity (name : List Char)
deriving DecidableEq

def hexDigit? (c : Char) : Option Nat :=
  let n := c.toNat
  if 48 ≤ n && n ≤ 57 then some (n - 48)
  else if 65 ≤ n && n ≤ 70 then some (n - 55)
  else if 97 ≤ n && n ≤ 102 then some (n - 87)
  else none

/-- The value of an ASCII digit. -/
def asciiDigit? (c : Char) : Option Nat :=
  if c.isDigit then some (c.toNat - 48) else none

/-- The character with a number, if it may stand in a document. -/
def charOf? (n : Nat) : Option Char :=
  if n.isValidChar then
    let c := Char.ofNat n
    if isChar c then some c else none
  else none

/-- The number written with digits of a base up to the semicolon, and what follows it. -/
def takeNumber (base : Nat) (digit? : Char → Option Nat) (cs : List Char) :
    Option (Nat × List Char) := do
  match cut ';' cs with
  | ([], _) => none
  | (ds, some rest) =>
    let ds ← ds.mapM digit?
    return (ds.foldl (fun n d ↦ base * n + d) 0, rest)
  | _ => none

def takeReference (letters : Alphabet) : List Char → Option (Reference × List Char)
  | '#' :: 'x' :: cs => do
    let (n, rest) ← takeNumber 16 hexDigit? cs
    return (.char (← charOf? n), rest)
  | '#' :: cs => do
    let (n, rest) ← takeNumber 10 asciiDigit? cs
    return (.char (← charOf? n), rest)
  | cs => do
    match ← takeName letters cs with
    | (name, ';' :: rest) => some (.entity name, rest)
    | _ => none

def predefined? (name : List Char) : Option Char :=
  match name with
  | ['l', 't'] => some '<'
  | ['g', 't'] => some '>'
  | ['a', 'm', 'p'] => some '&'
  | ['q', 'u', 'o', 't'] => some '"'
  | ['a', 'p', 'o', 's'] => some '\''
  | _ => none

/-! ## Literals, comments and instructions -/

def takeLiteral : List Char → Option (List Char × List Char)
  | q :: cs =>
    if q == '"' || q == '\'' then
      match cut q cs with
      | (s, some rest) => if s.all isChar then some (s, rest) else none
      | _ => none
    else none
  | [] => none

/-- Passes over a comment after its opening; two hyphens in it only end it. -/
def skipComment (cs : List Char) : Option (List Char) := do
  let (s, rest) ← splitAt? ['-', '-'] cs
  if !s.all isChar then none
  else match rest with
    | '>' :: rest => some rest
    | _ => none

/-- Passes over an instruction after its opening; its target must not be the name of the declaration
that only the start of a document may hold. -/
def skipInstruction (letters : Alphabet) (cs : List Char) : Option (List Char) := do
  let (target, cs) ← takeName letters cs
  if target.map Char.toLower == ['x', 'm', 'l'] then none
  else
    let (s, rest) ← splitAt? ['?', '>'] cs
    if s.isEmpty || (s.head?.any isSpace && s.all isChar) then some rest else none

end TypedSearch.Markup
