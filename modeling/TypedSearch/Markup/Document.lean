import TypedSearch.Markup.Namespace

/-!
# Whole documents

A document is one element, with comments, instructions and white space around it, perhaps a document
type declaration before it, and perhaps an XML declaration at the very start.
-/

namespace TypedSearch.Markup

open Text

/-! ## The declaration at the start -/

/-- What the declaration at the start of a document says. -/
structure Heading where
  encoding : Option (List Char)
  standalone : Bool
deriving DecidableEq

/-- May the character stand in a value of the declaration? -/
def isHeadingChar (c : Char) : Bool := c.isAlphanum || c == '.' || c == '-' || c == '_'

/-- Takes one `name="value"` of the declaration; white space stands before it. -/
def takeHeadingPart (cs : List Char) : Option ((List Char × List Char) × List Char) := do
  if !cs.head?.any isSpace then none
  else do
    let cs := skipSpace cs
    let name := cs.takeWhile fun c ↦ !isSpace c && c != '='
    match skipSpace (cs.drop name.length) with
    | '=' :: cs => do
      let (value, cs) ← takeLiteral (skipSpace cs)
      if !name.isEmpty && value.all isHeadingChar then some ((name, value), cs) else none
    | _ => none

def headingParts : Nat → List Char → Option (List (List Char × List Char))
  | 0, _ => none
  | fuel + 1, cs =>
    if (skipSpace cs).isEmpty then some []
    else do
      let (part, cs) ← takeHeadingPart cs
      return part :: (← headingParts fuel cs)

/-- The value of the part about outside declarations. -/
def standalone? : List Char → Option Bool
  | ['y', 'e', 's'] => some true
  | ['n', 'o'] => some false
  | _ => none

/-- What the parts of the declaration say: a version, then perhaps an encoding, then perhaps whether
declarations outside matter. -/
def headingOf? (parts : List (List Char × List Char)) : Option Heading :=
  match parts with
  | (['v', 'e', 'r', 's', 'i', 'o', 'n'], _) :: parts =>
    let (encoding, parts) := match parts with
      | (['e', 'n', 'c', 'o', 'd', 'i', 'n', 'g'], e) :: parts => (some e, parts)
      | parts => (none, parts)
    if encoding.any fun e ↦ !e.head?.any Char.isAlpha then none
    else match parts with
      | [] => some ⟨encoding, false⟩
      | [(['s', 't', 'a', 'n', 'd', 'a', 'l', 'o', 'n', 'e'], v)] =>
        (standalone? v).map fun s ↦ ⟨encoding, s⟩
      | _ => none
  | _ => none

/-- Takes the declaration at the start of a document, if there is one. White space comes after its
opening. -/
def takeHeading (cs : List Char) : Option (Heading × List Char) :=
  match after? "<?xml".toList cs with
  | none => some (⟨none, false⟩, cs)
  | some rest =>
    if rest.head?.any isSpace then do
      let (inside, rest) ← splitAt? ['?', '>'] rest
      return (← headingOf? (← headingParts (inside.length + 1) inside), rest)
    else some (⟨none, false⟩, cs)

/-! ## Around the element -/

def normalizeLines : List Char → List Char
  | [] => []
  | '\r' :: '\n' :: cs => '\n' :: normalizeLines cs
  | c :: cs => (if c == '\r' then '\n' else c) :: normalizeLines cs

/-- Takes in what stands before the element of a document. -/
def takeProlog : Nat → Bool → Declarations → List Char → Option (Declarations × List Char)
  | 0, _, _, _ => none
  | fuel + 1, seen, d, cs =>
    match skipSpace cs with
    | '<' :: '!' :: '-' :: '-' :: rest => do takeProlog fuel seen d (← skipComment rest)
    | '<' :: '?' :: rest => do takeProlog fuel seen d (← skipInstruction d.letters rest)
    | '<' :: '!' :: rest => do
      if seen then none
      else do
        let (keyword, rest) ← takeKeyword rest
        if keyword != "DOCTYPE".toList then none
        else do
          let (d, rest) ← takeDoctype d rest
          takeProlog fuel true d rest
    | '<' :: rest => some (d, rest)
    | _ => none

/-- Is there nothing of weight after the element of a document? -/
def isEpilog (letters : Alphabet) : Nat → List Char → Bool
  | 0, _ => false
  | fuel + 1, cs =>
    match skipSpace cs with
    | [] => true
    | '<' :: '!' :: '-' :: '-' :: rest => (skipComment rest).any (isEpilog letters fuel)
    | '<' :: '?' :: rest => (skipInstruction letters rest).any (isEpilog letters fuel)
    | _ => false

/-- Reads a document with the given letters that takes some octets. -/
def read (letters : Alphabet) (octets : Nat) (cs : List Char) : Option Element := do
  let (heading, cs) ← takeHeading (normalizeLines cs)
  let (d, cs) ← takeProlog (cs.length + 1) false (.empty letters octets heading.standalone) cs
  let (root, cs) ← takeRoot d cs
  if isEpilog letters (cs.length + 1) cs then (← root.resolve d initialBindings) else none

example : (read .plain 19 "<a b='1'>x<c/>y</a>".toList).map
    (fun e ↦ (e.tag, e.text, e.children.map (·.tag))) = some ("a", "x", ["c"]) := by decide +kernel

end TypedSearch.Markup
