import TypedSearch.Text.Identifier
import TypedSearch.Value.Basic

/-!
# Words of annotations

An annotation that is written as a text is cut into words: names, numbers, quoted texts and marks.
Blanks and comments separate words; a line break ends the annotation unless a bracket is open.

`Lexeme.all?` reads the words of a text, or none if it is no row of words.
-/

namespace TypedSearch.Annotation

open Text

inductive Lexeme where
  | name (s : String)
  | number (v : Value)
  | text (s : String)
  | octets (bs : List UInt8)
  /-- A quoted text with fields in braces, not yet taken apart; a raw one knows no escapes. -/
  | pattern (isRaw : Bool) (body : List Char)
  | mark (s : String)
deriving DecidableEq

/-! ## Numbers -/

def isDigitOf (base : Nat) (c : Char) : Bool :=
  if base ≤ 10 then c.isDigit && c.toNat < 48 + base
  else c.isDigit || ('a' ≤ c && c ≤ 'f') || ('A' ≤ c && c ≤ 'F')

def digitValue (c : Char) : Nat := if c.isDigit then c.toNat - 48 else c.toLower.toNat - 87

def ofDigitChars (base : Nat) (cs : List Char) : Nat :=
  cs.foldl (fun n c ↦ base * n + digitValue c) 0

/-- Takes digits of a base, with single underscores between them. -/
def takeGrouped (base : Nat) : List Char → List Char × List Char
  | '_' :: c :: cs =>
    if isDigitOf base c then let (ds, rest) := takeGrouped base cs; (c :: ds, rest)
    else ([], '_' :: c :: cs)
  | c :: cs =>
    if isDigitOf base c then let (ds, rest) := takeGrouped base cs; (c :: ds, rest)
    else ([], c :: cs)
  | [] => ([], [])

/-- The words that may follow a number without a blank. -/
def joinedWords : List (List Char) :=
  ["and".toList, "else".toList, "for".toList, "if".toList, "in".toList, "is".toList, "or".toList,
    "not".toList]

def endsNumber (cs : List Char) : Bool :=
  joinedWords.any (·.isPrefixOf cs) ||
    !cs.head?.any fun c ↦ c.isAlphanum || c == '_' || 128 ≤ c.toNat

/-- Takes a whole number with the mark of its base before it. -/
def takeBased (base : Nat) (cs : List Char) : Option (Value × List Char) :=
  let (ds, rest) := takeGrouped base cs
  if ds.isEmpty || !endsNumber rest then none
  else some (.int (ofDigitChars base ds), rest)

def takePower (cs : List Char) : Option (List Char × List Char) :=
  match cs with
  | e :: rest =>
    if e != 'e' && e != 'E' then some ([], cs)
    else
      let (sign, digits) := match rest with
        | '+' :: ds => (['+'], ds)
        | '-' :: ds => (['-'], ds)
        | ds => ([], ds)
      if digits.head?.any Char.isDigit then
        let (ds, rest) := takeGrouped 10 digits
        some ('e' :: (sign ++ ds), rest)
      else if sign.isEmpty then some ([], cs)
      else none
  | [] => some ([], [])

/-- Takes the part behind the point, if there is a point. -/
def takeFraction : List Char → List Char × List Char
  | '.' :: c :: cs =>
    if c.isDigit then let (ds, rest) := takeGrouped 10 (c :: cs); ('.' :: ds, rest)
    else (['.'], c :: cs)
  | ['.'] => (['.'], [])
  | cs => ([], cs)

/-- Takes a number in base ten: a whole one, one with a point or a power, or the second part of a
complex one. A whole number other than zero begins with no zero. -/
def takeDecimal (cs : List Char) : Option (Value × List Char) := do
  let (whole, rest) := takeGrouped 10 cs
  let (fraction, rest) := takeFraction rest
  let (power, rest) ← takePower rest
  let isWhole := fraction.isEmpty && power.isEmpty
  let x := (Binary64.read (whole ++ fraction ++ power)).getD .nan
  match rest with
  | 'j' :: rest | 'J' :: rest =>
    if endsNumber rest then some (.complex ⟨.zero false, x⟩, rest) else none
  | rest =>
    if !endsNumber rest then none
    else if !isWhole then some (.float x, rest)
    else if whole.head? == some '0' && whole.any (· != '0') then none
    else if Whole.maxDigits < whole.length then none
    else some (.int (ofDigitChars 10 whole), rest)

def takeNumber : List Char → Option (Value × List Char)
  | '0' :: c :: cs =>
    match c with
    | 'x' | 'X' => takeBased 16 cs
    | 'o' | 'O' => takeBased 8 cs
    | 'b' | 'B' => takeBased 2 cs
    | c => takeDecimal ('0' :: c :: cs)
  | cs => takeDecimal cs

/-! ## Quoted texts -/

/-- Takes what stands before a closing quote; a backslash keeps the next character from closing. A
text between single marks does not go beyond its line. -/
def takeQuoted (quote : Char) (isTriple : Bool) : List Char → Option (List Char × List Char)
  | [] => none
  | ['\\'] => none
  | '\\' :: c :: cs => do
    let (body, rest) ← takeQuoted quote isTriple cs
    return ('\\' :: c :: body, rest)
  | c :: cs =>
    if c == quote then
      if !isTriple then some ([], cs)
      else match cs with
        | c₂ :: c₃ :: rest =>
          if c₂ == quote && c₃ == quote then some ([], rest)
          else do
            let (body, rest) ← takeQuoted quote isTriple cs
            return (c :: body, rest)
        | _ => none
    else if c == '\n' && !isTriple then none
    else do
      let (body, rest) ← takeQuoted quote isTriple cs
      return (c :: body, rest)

def simpleEscapes : List (Char × Nat) :=
  [('\\', 92), ('\'', 39), ('"', 34), ('a', 7), ('b', 8), ('f', 12), ('n', 10), ('r', 13), ('t', 9),
    ('v', 11)]

/-- The code point of exactly `count` hexadecimal digits, with what follows them. -/
def takeCodePoint (count : Nat) (cs : List Char) : Option (Nat × List Char) :=
  let ds := cs.take count
  if ds.length == count && ds.all (isDigitOf 16) then some (ofDigitChars 16 ds, cs.drop count)
    else none

/-- Replaces the escapes of a quoted text by what `ofCode` makes of their code points; `isWide`
tells whether the long escapes are known. -/
def unescape {α : Type} (ofCode : Nat → Option α) (isWide : Bool) :
    Nat → List Char → Option (List α)
  | _, [] => some []
  | 0, _ => none
  | fuel + 1, '\\' :: c :: cs =>
    let long (count : Nat) : Option (List α) := do
      let (n, rest) ← takeCodePoint count cs
      return (← ofCode n) :: (← unescape ofCode isWide fuel rest)
    if c == '\n' then unescape ofCode isWide fuel cs
    else match simpleEscapes.lookup c with
      | some n => do return (← ofCode n) :: (← unescape ofCode isWide fuel cs)
      | none =>
        if isDigitOf 8 c then
          let ds := ((c :: cs).take 3).takeWhile (isDigitOf 8)
          do
            let n := ofDigitChars 8 ds
            return (← ofCode (if isWide then n else n % 256)) ::
              (← unescape ofCode isWide fuel ((c :: cs).drop ds.length))
        else if c == 'x' then long 2
        else if c == 'u' && isWide then long 4
        else if c == 'U' && isWide then long 8
        else if c == 'N' && isWide then none
        else do return (← ofCode 92) :: (← ofCode c.toNat) :: (← unescape ofCode isWide fuel cs)
  | fuel + 1, c :: cs => do return (← ofCode c.toNat) :: (← unescape ofCode isWide fuel cs)

def charOf (n : Nat) : Option Char := if n.isValidChar then some (Char.ofNat n) else none

/-- The octet of an ASCII code point or of an escape. -/
def octetOf (n : Nat) : Option UInt8 := if n < 256 then some (UInt8.ofNat n) else none

def textBody? (isRaw : Bool) (body : List Char) : Option (List Char) :=
  if isRaw then some body else unescape charOf true body.length body

def octetBody? (isRaw : Bool) (body : List Char) : Option (List UInt8) :=
  if body.any (128 ≤ ·.toNat) then none
  else if isRaw then body.mapM fun c ↦ octetOf c.toNat
  else unescape octetOf false body.length body

/-- The word that a quoted text with some letters before it is, if the letters mean anything. -/
def quotedLexeme (letters body : List Char) : Option Lexeme :=
  let has (c : Char) : Bool := letters.contains c
  if has 'f' then some (.pattern (has 'r') body)
  else if has 'b' then (octetBody? (has 'r') body).map .octets
  else (textBody? (has 'r') body).map fun cs ↦ .text (.ofList cs)

def quoteLetters : List (List Char) :=
  [[], ['b'], ['r'], ['u'], ['f'], ['b', 'r'], ['r', 'b'], ['f', 'r'], ['r', 'f']]

/-- Takes a quoted text whose first quote is `quote`. -/
def takeText (letters : List Char) (quote : Char) (cs : List Char) :
    Option (Lexeme × List Char) := do
  let (isTriple, cs) := match cs with
    | c₂ :: c₃ :: rest => if c₂ == quote && c₃ == quote then (true, rest) else (false, cs)
    | cs => (false, cs)
  let (body, rest) ← takeQuoted quote isTriple cs
  return (← quotedLexeme letters body, rest)

/-! ## Marks -/

/-- The marks, longer ones before those that they begin with. -/
def marks : List (List Char) :=
  ["...", "**", "//", "<<", ">>", "==", "!=", "<=", ">=", ":=", "(", ")", "[", "]", "\x7b", "\x7d",
    ",", ":", ".", "=", "+", "-", "*", "/", "%", "@", "&", "|", "^", "~", "<", ">"].map
    String.toList

def takeMark (cs : List Char) : Option (List Char × List Char) :=
  (marks.find? (·.isPrefixOf cs)).map fun m ↦ (m, cs.drop m.length)

/-- How many brackets are open behind a mark; none if too many are or none was. -/
def depthAfter (depth : Nat) (m : List Char) : Option Nat :=
  match m with
  | ['('] | ['['] | ['\x7b'] => if depth < 200 then some (depth + 1) else none
  | [')'] | [']'] | ['\x7d'] => if depth = 0 then none else some (depth - 1)
  | _ => some depth

/-! ## Lines -/

def joinLineBreaks : List Char → List Char
  | '\r' :: '\n' :: cs => '\n' :: joinLineBreaks cs
  | '\r' :: cs => '\n' :: joinLineBreaks cs
  | c :: cs => c :: joinLineBreaks cs
  | [] => []

/-- Skips lines without words; the first word stands at the beginning of its line. `column` is where
the line has come to, and `carried` the first column from which a backslash led on. -/
def skipLines : List Char → Nat → Nat → Option (List Char)
  | [], column, carried => if column = 0 && carried = 0 then some [] else none
  | ' ' :: cs, column, carried => skipLines cs (column + 1) carried
  | '\t' :: cs, column, carried => skipLines cs ((column / 8 + 1) * 8) carried
  | '\x0c' :: cs, _, carried => skipLines cs 0 carried
  | '\n' :: cs, _, _ => skipLines cs 0 0
  | '\\' :: '\n' :: c :: cs, column, carried =>
    skipLines (c :: cs) column (if carried = 0 then column else carried)
  | '#' :: cs, _, _ => skipComment cs
  | c :: cs, column, carried => if column = 0 && carried = 0 then some (c :: cs) else none
where
  /-- Skips the rest of a comment and the lines without words after it. -/
  skipComment : List Char → Option (List Char)
    | [] => some []
    | '\n' :: cs => skipLines cs 0 0
    | _ :: cs => skipComment cs

/-! ## All words -/

def isGap (c : Char) : Bool := c == ' ' || c == '\t' || c == '\x0c'

/-- The words of a text of at most `fuel` characters inside `depth` open brackets. -/
def lexemesWithin : Nat → Nat → List Char → Option (List Lexeme)
  | _, depth, [] => if depth = 0 then some [] else none
  | 0, _, _ => none
  | fuel + 1, depth, '\\' :: '\n' :: c :: cs => lexemesWithin fuel depth (c :: cs)
  | fuel + 1, depth, c :: cs =>
    let next := (cs.head?).getD ' '
    if isGap c then lexemesWithin fuel depth cs
    else if c == '#' then lexemesWithin fuel depth (cs.dropWhile (· != '\n'))
    else if c == '\n' then
      if depth = 0 then match skipLines cs 0 0 with
        | some [] => some []
        | _ => none
      else lexemesWithin fuel depth cs
    else if c == '\'' || c == '"' then do
      let (w, rest) ← takeText [] c cs
      return w :: (← lexemesWithin fuel depth rest)
    else if c.isDigit || (c == '.' && next.isDigit) then do
      let (v, rest) ← takeNumber (c :: cs)
      return .number v :: (← lexemesWithin fuel depth rest)
    else if isIdentifierStart c then
      let run := (c :: cs).takeWhile isIdentifierChar
      let rest := (c :: cs).dropWhile isIdentifierChar
      let letters := run.map Char.toLower
      match rest with
      | q :: body =>
        if (q == '\'' || q == '"') && quoteLetters.contains letters then do
          let (w, rest) ← takeText letters q body
          return w :: (← lexemesWithin fuel depth rest)
        else do return .name (plainIdentifier run) :: (← lexemesWithin fuel depth rest)
      | [] => do return .name (plainIdentifier run) :: (← lexemesWithin fuel depth rest)
    else do
      let (m, rest) ← takeMark (c :: cs)
      let depth ← depthAfter depth m
      return .mark (.ofList m) :: (← lexemesWithin fuel depth rest)

def Lexeme.all? (cs : List Char) : Option (List Lexeme) := do
  let cs ← skipLines (joinLineBreaks cs) 0 0
  lexemesWithin cs.length 0 cs

example : Lexeme.all? "List[\n 0x1F] # a list".toList =
    some [.name "List", .mark "[", .number (.int 31), .mark "]"] ∧
    Lexeme.all? " int".toList = none ∧ Lexeme.all? "'a\\x62'".toList = some [.text "ab"] := by
  decide +kernel

end TypedSearch.Annotation
