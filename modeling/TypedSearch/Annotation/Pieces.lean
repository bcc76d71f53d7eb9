import TypedSearch.Annotation.Lexeme
import TypedSearch.Annotation.Syntax

/-!
# Quoted texts with fields

A quoted text with an `f` before it holds fields in braces: an expression, perhaps with an equals
sign behind it that lets its source be seen, a conversion, and a layout. A layout may hold fields of
its own.
-/

namespace TypedSearch.Annotation

open Text

/-- What stands in the braces of a field. -/
structure FieldText where
  /-- The expression as it is written. -/
  source : List Char
  /-- The text up to the equals sign and the blanks behind it, if there is one. -/
  label : Option (List Char)
  conversion : Option Conversion
  /-- The layout as it is written. -/
  layout : Option (List Char)
deriving DecidableEq

/-- A piece of a quoted text: characters, or a field. -/
inductive Piece where
  | characters (cs : List Char)
  | field (f : FieldText)
deriving DecidableEq

/-- Takes the source of a field up to what ends it: a brace, an exclamation mark, a colon or an
equals sign outside all brackets and quotes. -/
def takeField : Nat → List Char → Option (List Char × List Char)
  | _, [] => none
  | depth, [c] => if depth = 0 && c == '\x7d' then some ([], [c]) else none
  | depth, c :: d :: cs =>
    let go (depth : Nat) : Option (List Char × List Char) := do
      let (source, rest) ← takeField depth (d :: cs)
      return (c :: source, rest)
    if c == '\\' || c == '#' then none
    else if c == '\'' || c == '"' then takeQuote c depth (d :: cs) [c]
    else if d == '=' && (c == '=' || c == '!' || c == '<' || c == '>') then do
      let (source, rest) ← takeField depth cs
      return (c :: d :: source, rest)
    else if c == '(' || c == '[' || c == '\x7b' then go (depth + 1)
    else if depth = 0 then
      if c == '\x7d' || c == ':' || c == '!' || c == '=' then some ([], c :: d :: cs)
      else if c == ')' || c == ']' then none
      else go depth
    else if c == ')' || c == ']' || c == '\x7d' then go (depth - 1)
    else go depth
where
  /-- Takes what is left of a quoted text in the source of a field, and the rest of the source. -/
  takeQuote (quote : Char) (depth : Nat) : List Char → List Char → Option (List Char × List Char)
    | [], _ => none
    | c :: cs, taken =>
      if c == '\\' then none
      else if c == quote then do
        let (source, rest) ← takeField depth cs
        return ((c :: taken).reverse ++ source, rest)
      else takeQuote quote depth cs (c :: taken)

def isFieldBlank (c : Char) : Bool :=
  c == ' ' || c == '\t' || c == '\n' || c == '\r' || c == '\x0b' || c == '\x0c'

/-- Takes the equals sign behind the source of a field and the blanks behind it, if there is one. -/
def takeLabel (source : List Char) : List Char → Option (List Char) × List Char
  | '=' :: cs => (some (source ++ '=' :: cs.takeWhile isFieldBlank), cs.dropWhile isFieldBlank)
  | cs => (none, cs)

def takeConversion : List Char → Option (Option Conversion × List Char)
  | '!' :: 's' :: cs => some (some .display, cs)
  | '!' :: 'r' :: cs => some (some .inspect, cs)
  | '!' :: 'a' :: cs => some (some .ascii, cs)
  | '!' :: _ => none
  | cs => some (none, cs)

/-- Takes a layout up to the brace that closes its field; `depth` tells how many fields of its own
are open. -/
def takeLayout : Nat → List Char → Option (List Char × List Char)
  | _, [] => none
  | 0, '\x7d' :: cs => some ([], '\x7d' :: cs)
  | depth, c :: cs => do
    let (layout, rest) ← takeLayout
      (if c == '\x7b' then depth + 1 else if c == '\x7d' then depth - 1 else depth) cs
    return (c :: layout, rest)

def takeFieldText (cs : List Char) : Option (FieldText × List Char) := do
  let (source, rest) ← takeField 0 cs
  if source.all isGap then none
  else
    let (label, rest) := takeLabel source rest
    let (conversion, rest) ← takeConversion rest
    let (layout, rest) ← match rest with
      | ':' :: rest => (takeLayout 0 rest).map fun l ↦ (some l.1, l.2)
      | rest => some (none, rest)
    match rest with
    | '\x7d' :: rest => some (⟨source, label, conversion, layout⟩, rest)
    | _ => none

/-- The pieces of the body of a quoted text, or of a layout, of at most `fuel` characters; a doubled
brace is a character, unless it stands in a layout. -/
def piecesWithin (isRaw isLayout : Bool) : Nat → List Char → Option (List Piece)
  | _, [] => some []
  | 0, _ => none
  | fuel + 1, c :: cs => do
    let isDoubled := !isLayout && (c == '\x7b' || c == '\x7d') && cs.head? == some c
    if isDoubled then return .characters [c] :: (← piecesWithin isRaw isLayout fuel (cs.drop 1))
    else if c == '\x7b' then
      let (field, rest) ← takeFieldText cs
      return .field field :: (← piecesWithin isRaw isLayout fuel rest)
    else if c == '\x7d' then none
    else
      let isText (d : Char) : Bool := d != '\x7b' && d != '\x7d'
      let characters ← textBody? isRaw ((c :: cs).takeWhile isText)
      return .characters characters ::
        (← piecesWithin isRaw isLayout fuel ((c :: cs).dropWhile isText))

def piecesOf? (isRaw : Bool) (body : List Char) : Option (List Piece) :=
  piecesWithin isRaw false body.length body

def layoutPieces? (isRaw : Bool) (layout : List Char) : Option (List Piece) :=
  piecesWithin isRaw true layout.length layout

end TypedSearch.Annotation
