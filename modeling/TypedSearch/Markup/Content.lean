import TypedSearch.Markup.Doctype

/-!
# Content

The tree of a document as it is written: tags with their prefixes, attributes as they stand, text
with its references replaced. The text of an entity is content of its own, in which every element
that begins also ends.
-/

namespace TypedSearch.Markup

open Text

/-- A stretch of content as it is written. -/
inductive Node where
  /-- An element in a text with some letters. -/
  | element (letters : Alphabet) (name : List Char) (attributes : List (List Char × List Char))
    (content : List Node)
  | text (cs : List Char)
deriving Inhabited

/-! ## Text -/

def isPlainText (c : Char) : Bool := c != '<' && c != '&'

/-- Is a run of text without markup in order? The end of a marked section must not stand in it. -/
def isTextRun (cs : List Char) : Bool := cs.all isChar && (splitAt? [']', ']', '>'] cs).isNone

/-! ## The tree -/

/-- Takes content up to an end tag or the end of the text; `expand` gives the content of
entities. -/
def takeContent (letters : Alphabet) (expand : List Char → Option (List Node)) :
    Nat → List Char → Option (List Node × List Char)
  | _, [] => some ([], [])
  | 0, _ => none
  | fuel + 1, '<' :: cs =>
    match cs with
    | '/' :: _ => some ([], '<' :: cs)
    | '!' :: '-' :: '-' :: rest => do takeContent letters expand fuel (← skipComment rest)
    | '!' :: rest => do
      let rest ← after? "[CDATA[".toList rest
      let (s, rest) ← splitAt? [']', ']', '>'] rest
      if !s.all isChar then none
      else do
        let (nodes, rest) ← takeContent letters expand fuel rest
        return (.text s :: nodes, rest)
    | '?' :: rest => do takeContent letters expand fuel (← skipInstruction letters rest)
    | cs => do
      let (tag, rest) ← takeStartTag letters fuel cs
      if tag.isEmpty then
        let (nodes, rest) ← takeContent letters expand fuel rest
        return (.element letters tag.name tag.attributes [] :: nodes, rest)
      else
        let (inside, rest) ← takeContent letters expand fuel rest
        let (nodes, rest) ← takeContent letters expand fuel (← skipEndTag letters tag.name rest)
        return (.element letters tag.name tag.attributes inside :: nodes, rest)
  | fuel + 1, '&' :: cs => do
    let (r, rest) ← takeReference letters cs
    let here ← match r with
      | .char c => some [.text [c]]
      | .entity name => match predefined? name with
        | some c => some [.text [c]]
        | none => expand name
    let (nodes, rest) ← takeContent letters expand fuel rest
    return (here ++ nodes, rest)
  | fuel + 1, cs =>
    let run := cs.takeWhile isPlainText
    if !isTextRun run then none
    else do
      let (nodes, rest) ← takeContent letters expand fuel (cs.dropWhile isPlainText)
      return (.text run :: nodes, rest)

/-- The content that an entity stands for, entities nested at most `depth` deep. -/
def entityContent (d : Declarations) : Nat → List Char → Option (List Node)
  | 0, _ => none
  | depth + 1, name => match d.entities.lookup name with
    | some (.internal text) =>
      match takeContent .plain (entityContent d depth) text.length text with
      | some (nodes, []) => some nodes
      | _ => none
    | _ => none

/-- Takes the element that makes up a document, after its angle. -/
def takeRoot (d : Declarations) (cs : List Char) : Option (Node × List Char) := do
  let d ← d.spend (.ofContent d.letters ('<' :: cs))
  let (tag, rest) ← takeStartTag d.letters cs.length cs
  if tag.isEmpty then some (.element d.letters tag.name tag.attributes [], rest)
  else do
    let expand := entityContent d (d.entities.length + 1)
    let (inside, rest) ← takeContent d.letters expand rest.length rest
    let rest ← skipEndTag d.letters tag.name rest
    return (.element d.letters tag.name tag.attributes inside, rest)

end TypedSearch.Markup
