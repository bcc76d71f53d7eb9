import TypedSearch.Markup.Lexeme

/-!
# Tags

Where an element begins and where it ends. The attributes of a start tag keep their values as they
are written.
-/

namespace TypedSearch.Markup

/-- A start tag: the element's name, its attributes, and whether it is empty. -/
structure StartTag where
  name : List Char
  attributes : List (List Char × List Char)
  isEmpty : Bool
deriving DecidableEq

/-- Takes an attribute: a name, an equals sign and a literal. -/
def takeAttribute (letters : Alphabet) (cs : List Char) :
    Option ((List Char × List Char) × List Char) := do
  let (name, cs) ← takeQualified letters cs
  match skipSpace cs with
  | '=' :: cs => do
    let (value, cs) ← takeLiteral (skipSpace cs)
    return ((name, value), cs)
  | _ => none

/-- Takes the attributes of a start tag and its end; tells whether the element is empty. White space
stands before each attribute. -/
def takeAttributes (letters : Alphabet) :
    Nat → List Char → Option (List (List Char × List Char) × Bool × List Char)
  | 0, _ => none
  | fuel + 1, cs =>
    match skipSpace cs with
    | '>' :: rest => some ([], false, rest)
    | '/' :: '>' :: rest => some ([], true, rest)
    | rest =>
      if cs.head?.any isSpace then do
        let (a, rest) ← takeAttribute letters rest
        let (as, isEmpty, rest) ← takeAttributes letters fuel rest
        return (a :: as, isEmpty, rest)
      else none

/-- Takes a start tag after its angle. The fuel need not be more than the length of the text. -/
def takeStartTag (letters : Alphabet) (fuel : Nat) (cs : List Char) :
    Option (StartTag × List Char) := do
  let (name, cs) ← takeQualified letters cs
  let (as, isEmpty, rest) ← takeAttributes letters fuel cs
  return (⟨name, as, isEmpty⟩, rest)

def skipEndTag (letters : Alphabet) (name : List Char) (cs : List Char) : Option (List Char) := do
  let (n, cs) ← takeQualified letters (← after? ['<', '/'] cs)
  if n != name then none
  else match skipSpace cs with
    | '>' :: rest => some rest
    | _ => none

end TypedSearch.Markup
