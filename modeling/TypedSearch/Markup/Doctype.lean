import TypedSearch.Markup.Expansion

/-!
# Document types

Reading the document type declaration at the head of a document. Entities and attributes are
declared in it; declarations of element content and of notations are checked for their form only.
-/

namespace TypedSearch.Markup

open Text

/-! ## Words of a declaration -/

inductive Word where
  /-- A name, marked with `?`, `*` or `+` if one follows directly. -/
  | name (cs : List Char) (count : Option Char)
  /-- Name characters that are no name. -/
  | token (cs : List Char)
  /-- A name after a number sign. -/
  | keyword (cs : List Char)
  | literal (cs : List Char)
  | sign (c : Char)
  /-- A closing parenthesis, marked like a name. -/
  | close (count : Option Char)
deriving DecidableEq

def beginsWith (marks : List Char) (cs : List Char) : Bool := cs.head?.any marks.contains

/-- The characters of a text that may stand in a qualified name. -/
def isWordChar (letters : Alphabet) (c : Char) : Bool := isNameChar letters c || c == ':'

/-- Is a word a name, or a name with a prefix? What follows the prefix need not begin as a name
does. -/
def isDeclaredName (letters : Alphabet) (w : List Char) : Bool :=
  match takeName letters w with
  | some (_, []) => true
  | some (_, ':' :: rest) => !rest.isEmpty && rest.all (isNameChar letters)
  | _ => false

def takeWord (letters : Alphabet) (cs : List Char) : Option (Word × List Char) :=
  let w := cs.takeWhile (isWordChar letters)
  let rest := cs.dropWhile (isWordChar letters)
  let isName := isDeclaredName letters w
  match rest with
  | [] => none
  | c :: tail =>
    if c == '?' || c == '*' || c == '+' then
      if isName then some (.name w (some c), tail) else none
    else if isSpace c || beginsWith ['>', ')', ',', '|', '[', '%'] rest then
      some (if isName then .name w none else .token w, rest)
    else none

def takeMark (letters : Alphabet) (cs : List Char) : Option (Word × List Char) :=
  match cs with
  | [] => none
  | c :: tail =>
    if c == '"' || c == '\'' then do
      let (s, rest) ← takeLiteral cs
      if rest.head?.any isSpace || beginsWith ['>', '%', '['] rest then some (.literal s, rest)
      else none
    else if ['(', ',', '|', '[', '>', ']'].contains c then some (.sign c, tail)
    else if c == ')' then
      if beginsWith ['?', '*', '+'] tail then some (.close tail.head?, tail.drop 1)
      else if tail.head?.any isSpace || beginsWith ['>', ',', '|', ')'] tail then
        some (.close none, tail)
      else none
    else if c == '%' then
      if tail.head?.any isSpace || beginsWith ['%'] tail then some (.sign '%', tail) else none
    else if c == '#' then do
      let (w, rest) ← takeName letters tail
      if rest.head?.any isSpace || beginsWith [')', '>', '%', '|'] rest then
        some (.keyword w, rest)
      else none
    else if isWordChar letters c then takeWord letters cs
    else none

/-- The words of a declaration up to one of the `ends`, which is passed over and returned. -/
def takeMarks (letters : Alphabet) (ends : List Char) :
    Nat → List Char → Option (List Word × Char × List Char)
  | 0, _ => none
  | fuel + 1, cs => do
    let (w, rest) ← takeMark letters (skipSpace cs)
    match w with
    | .sign c =>
      if ends.contains c then some ([], c, rest)
      else do
        let (ws, e, rest) ← takeMarks letters ends fuel rest
        return (w :: ws, e, rest)
    | w => do
      let (ws, e, rest) ← takeMarks letters ends fuel rest
      return (w :: ws, e, rest)

/-! ## Single declarations -/

def isPublicChar (c : Char) : Bool :=
  c.isAlphanum || c == ' ' || c == '\n' || c == '\r' || "-'()+,./:=?;!*#@$_%".toList.contains c

/-- Is the row of words an identifier of something outside? A public one may lack the address if
`shortPublic`. -/
def isExternal (shortPublic : Bool) : List Word → Bool
  | [.name ['S', 'Y', 'S', 'T', 'E', 'M'] none, .literal _] => true
  | [.name ['P', 'U', 'B', 'L', 'I', 'C'] none, .literal p, .literal _] => p.all isPublicChar
  | [.name ['P', 'U', 'B', 'L', 'I', 'C'] none, .literal p] => shortPublic && p.all isPublicChar
  | _ => false

/-- The row of words without the notation that may end it. -/
def dropNotation (ws : List Word) : List Word :=
  match ws.reverse with
  | .name n none :: .name ['N', 'D', 'A', 'T', 'A'] none :: rest =>
    if n.contains ':' then ws else rest.reverse
  | _ => ws

/-- The text of an entity as declared: references to characters are replaced, those to entities
stay. -/
def entityText (letters : Alphabet) : Nat → List Char → Option (List Char)
  | _, [] => some []
  | 0, _ => none
  | fuel + 1, '&' :: cs => do
    let (r, rest) ← takeReference letters cs
    let text := match r with
      | .char c => [c]
      | .entity name => '&' :: name ++ [';']
    return text ++ (← entityText letters fuel rest)
  | fuel + 1, c :: cs => if c == '%' then none else (entityText letters fuel cs).map (c :: ·)

def declareEntity (d : Declarations) (ws : List Word) : Option Declarations :=
  match ws with
  | .sign '%' :: .name n none :: [.literal s] =>
    if n.contains ':' then none
    else if d.isReading then (entityText d.letters s.length s).map fun _ ↦ d else some d
  | .sign '%' :: .name n none :: ws =>
    if !n.contains ':' && isExternal false ws then some d else none
  | .name n none :: [.literal s] =>
    if n.contains ':' then none
    else if !d.isReading then some d
    else do
      let text ← entityText d.letters s.length s
      if (predefined? n).isSome || (d.entities.lookup n).isSome then return d
      else return { d with entities := d.entities ++ [(n, .internal text)] }
  | .name n none :: ws =>
    if n.contains ':' || !isExternal false (dropNotation ws) then none
    else if !d.isReading || (predefined? n).isSome || (d.entities.lookup n).isSome then some d
    else some { d with entities := d.entities ++ [(n, .outside)] }
  | _ => none

/-- Does a row of words list names, or any words, with bars between them up to the closing
parenthesis? Returns what follows. -/
def takeChoices (namesOnly : Bool) : List Word → Option (List Word)
  | w :: ws =>
    let fits := match w with
      | .name n none => !namesOnly || !n.contains ':'
      | .token _ => !namesOnly
      | _ => false
    if !fits then none
    else match ws with
      | .close none :: ws => some ws
      | .sign '|' :: ws => takeChoices namesOnly ws
      | _ => none
  | [] => none

/-- The names of the attribute types whose values are trimmed. -/
def trimmedTypes : List String :=
  ["ID", "IDREF", "IDREFS", "ENTITY", "ENTITIES", "NMTOKEN", "NMTOKENS"]

/-- Takes the type of an attribute; tells whether its values are taken as they are. -/
def takeAttributeType : List Word → Option (Bool × List Word)
  | .name ['C', 'D', 'A', 'T', 'A'] none :: ws => some (true, ws)
  | .name ['N', 'O', 'T', 'A', 'T', 'I', 'O', 'N'] none :: .sign '(' :: ws =>
    (takeChoices true ws).map (false, ·)
  | .name n none :: ws => if trimmedTypes.contains (.ofList n) then some (false, ws) else none
  | .sign '(' :: ws => (takeChoices false ws).map (false, ·)
  | _ => none

def takeDefault : List Word → Option (Option (List Char) × List Word)
  | .keyword ['I', 'M', 'P', 'L', 'I', 'E', 'D'] :: ws => some (none, ws)
  | .keyword ['R', 'E', 'Q', 'U', 'I', 'R', 'E', 'D'] :: ws => some (none, ws)
  | .keyword ['F', 'I', 'X', 'E', 'D'] :: .literal s :: ws => some (some s, ws)
  | .literal s :: ws => some (some s, ws)
  | _ => none

def declareAttributes (element : List Char) :
    Nat → Declarations → List Word → Option Declarations
  | _, d, [] => some d
  | 0, _, _ => none
  | fuel + 1, d, .name n none :: ws => do
    let (isPlain, ws) ← takeAttributeType ws
    let (written, ws) ← takeDefault ws
    if !d.isReading then declareAttributes element fuel d ws
    else do
      let d ← d.spend (.ofDefault d.letters (written.getD []))
      let default ← match written with
        | none => some none
        | some s =>
          (attributeValue d d.letters s).map fun v ↦ some (if isPlain then v else collapse v)
      let isKnown := d.attributes.any fun r ↦ r.element == element && r.name == n
      let d := if isKnown then d
        else { d with attributes := d.attributes ++ [⟨element, n, isPlain, default⟩] }
      declareAttributes element fuel d ws
  | _, _, _ => none

/-- Does a row of words continue a choice of text and elements? -/
def isMixed : List Word → Bool
  | [.close (some '*')] => true
  | .sign '|' :: .name _ none :: ws => isMixed ws
  | _ => false

/-- Does a row of words continue a model of element content, given the connectors of the groups that
are open and whether an item is due? -/
def isModel : List (Option Char) → Bool → List Word → Bool
  | [], _, ws => ws.isEmpty
  | stack, true, .sign '(' :: ws => isModel (none :: stack) true ws
  | stack, true, .name _ _ :: ws => isModel stack false ws
  | connector :: stack, false, .sign c :: ws =>
    (c == ',' || c == '|') && (connector.isNone || connector == some c) &&
      isModel (some c :: stack) true ws
  | _ :: stack, false, .close _ :: ws => isModel stack false ws
  | _, _, _ => false

/-- Does a row of words describe the content of an element? -/
def isContentModel : List Word → Bool
  | [.name ['E', 'M', 'P', 'T', 'Y'] none] => true
  | [.name ['A', 'N', 'Y'] none] => true
  | [.sign '(', .keyword ['P', 'C', 'D', 'A', 'T', 'A'], .close none] => true
  | .sign '(' :: .keyword ['P', 'C', 'D', 'A', 'T', 'A'] :: ws => isMixed ws
  | .sign '(' :: ws => isModel [none] true ws
  | _ => false

/-- Takes in a declaration by its keyword and its words. -/
def declareOne (d : Declarations) (keyword : List Char) (ws : List Word) : Option Declarations :=
  match String.ofList keyword, ws with
  | "ENTITY", ws => declareEntity d ws
  | "ATTLIST", .name n none :: ws => declareAttributes n ws.length d ws
  | "ELEMENT", .name _ none :: ws => if isContentModel ws then some d else none
  | "NOTATION", .name n none :: ws =>
    if !n.contains ':' && isExternal true ws then some d else none
  | _, _ => none

/-! ## The whole -/

def takeKeyword (cs : List Char) : Option (List Char × List Char) :=
  let rest := cs.dropWhile Char.isAlpha
  if rest.head?.any isSpace then some (cs.takeWhile Char.isAlpha, rest)
  else match rest with
    | '%' :: tail =>
      if tail.head?.any isSpace || beginsWith ['%'] tail then none
      else some (cs.takeWhile Char.isAlpha, rest)
    | _ => none

/-- Takes in the declarations between brackets, up to and with the closing one. -/
def takeSubset : Nat → Declarations → List Char → Option (Declarations × List Char)
  | 0, _, _ => none
  | fuel + 1, d, cs =>
    match skipSpace cs with
    | ']' :: rest => some (d, rest)
    | '<' :: '!' :: '-' :: '-' :: rest => do takeSubset fuel d (← skipComment rest)
    | '<' :: '?' :: rest => do takeSubset fuel d (← skipInstruction d.letters rest)
    | '<' :: '!' :: rest => do
      let (keyword, rest) ← takeKeyword rest
      let (ws, _, rest) ← takeMarks d.letters ['>'] fuel rest
      takeSubset fuel (← declareOne d keyword ws) rest
    | '%' :: rest => do
      match ← takeName d.letters rest with
      | (_, ';' :: rest) =>
        takeSubset fuel { d with hasOutside := true, isReading := d.isReading && d.standalone } rest
      | _ => none
    | _ => none

/-- Takes a document type declaration after its keyword. -/
def takeDoctype (d : Declarations) (cs : List Char) : Option (Declarations × List Char) := do
  let (ws, e, rest) ← takeMarks d.letters ['[', '>'] cs.length cs
  let d ← match ws with
    | [.name _ none] => some d
    | .name _ none :: ws => if isExternal false ws then some { d with hasOutside := true } else none
    | _ => none
  if e == '>' then some (d, rest)
  else do
    let (d, rest) ← takeSubset rest.length d rest
    match skipSpace rest with
    | '>' :: rest => some (d, rest)
    | _ => none

end TypedSearch.Markup
