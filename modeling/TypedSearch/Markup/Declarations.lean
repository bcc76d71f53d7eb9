import TypedSearch.Markup.Lexeme

/-!
# Declarations

What a document declares before its element: entities, whose text replaces the references to them,
and attributes with types and defaults. Attributes are read under the declarations, as their values
may refer to entities.
-/

namespace TypedSearch.Markup

open Text

/-- An entity: a text, or something outside the document. -/
inductive Entity where
  | internal (text : List Char)
  | outside
deriving DecidableEq

/-- What is declared of an attribute of some element. -/
structure AttributeRule where
  element : List Char
  name : List Char
  /-- Is the value taken as it is, without trimming? -/
  isPlain : Bool
  default : Option (List Char)
deriving DecidableEq

structure Declarations where
  /-- The letters of the document. The texts of entities have plain ones. -/
  letters : Alphabet
  /-- The size of the document in octets. -/
  octets : Nat
  /-- The size of what the entities in the declarations themselves are replaced by, in octets. -/
  expanded : Nat
  entities : List (List Char × Entity)
  attributes : List AttributeRule
  /-- Does the document do without declarations outside of it? -/
  standalone : Bool
  /-- Are there declarations outside the document, where entities may be declared too? -/
  hasOutside : Bool
  /-- Are declarations still taken in? They are not after a reference to some that stand outside. -/
  isReading : Bool
deriving DecidableEq

namespace Declarations

/-- The declarations at the start of a document of some octets. -/
def empty (letters : Alphabet) (octets : Nat) (standalone : Bool) : Declarations :=
  ⟨letters, octets, 0, [], [], standalone, false, true⟩

/-- Does a reference to an undeclared entity pass in an attribute? -/
def isLenient (d : Declarations) : Bool := d.hasOutside && !d.standalone

end Declarations

/-! ## Attribute values -/

/-- The value of an attribute as written: white space becomes spaces and references are replaced, by
`expand` if they name entities. -/
def attributeWith (letters : Alphabet) (expand : List Char → Option (List Char)) :
    Nat → List Char → Option (List Char)
  | _, [] => some []
  | 0, _ => none
  | fuel + 1, c :: cs =>
    if c == '<' then none
    else if c == '&' then do
      let (r, rest) ← takeReference letters cs
      let value ← match r with
        | .char c => some [c]
        | .entity name => match predefined? name with
          | some c => some [c]
          | none => expand name
      return value ++ (← attributeWith letters expand fuel rest)
    else if !isChar c then none
    else (attributeWith letters expand fuel cs).map ((if isSpace c then ' ' else c) :: ·)

/-- The text that an entity stands for in an attribute, entities nested at most `depth` deep. -/
def entityInAttribute (d : Declarations) : Nat → List Char → Option (List Char)
  | 0, _ => none
  | depth + 1, name => match d.entities.lookup name with
    | some (.internal text) => attributeWith .plain (entityInAttribute d depth) text.length text
    | some .outside => none
    | none => if d.isLenient then some [] else none

/-- The value of an attribute under some declarations, in a text with the given letters. -/
def attributeValue (d : Declarations) (letters : Alphabet) (cs : List Char) : Option (List Char) :=
  attributeWith letters (entityInAttribute d (d.entities.length + 1)) cs.length cs

/-- A value without spaces around it and with single spaces inside. -/
def collapse (cs : List Char) : List Char :=
  [' '].intercalate ((pieces (· == ' ') cs).filter fun w ↦ !w.isEmpty)

end TypedSearch.Markup
