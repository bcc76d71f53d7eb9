import TypedSearch.Markup.Declarations
import TypedSearch.Markup.Tag

/-!
# Expansion of entities

A short document may stand for a very long one, if its entities refer to others many times over.
Such a document is refused before it is expanded: its expansion is measured by the sizes of its
entities.
-/

namespace TypedSearch.Markup

/-- The number of octets of a text in UTF-8. -/
def octetCount (cs : List Char) : Nat := cs.foldl (fun n c ↦ n + c.utf8Size) 0

/-- What has to be read besides a text itself. -/
structure Demand where
  /-- The number of octets of the text that are read once more. -/
  again : Nat
  /-- The names of the entities that are read where the text refers to them. -/
  entities : List (List Char)
deriving DecidableEq

namespace Demand

instance : EmptyCollection Demand := ⟨⟨0, []⟩⟩

instance : Append Demand := ⟨fun x y ↦ ⟨x.again + y.again, x.entities ++ y.entities⟩⟩

/-- The names of the entities that the value of an attribute refers to. -/
def references (letters : Alphabet) : Nat → List Char → List (List Char)
  | 0, _ | _, [] => []
  | fuel + 1, '&' :: cs => match takeReference letters cs with
    | some (.entity name, rest) => name :: references letters fuel rest
    | _ => references letters fuel cs
  | fuel + 1, _ :: cs => references letters fuel cs

/-- What the value of an attribute demands where it is declared. -/
def ofDefault (letters : Alphabet) (cs : List Char) : Demand :=
  ⟨0, references letters cs.length cs⟩

/-- Is the value of an attribute the same as it is written? -/
def isFinal (cs : List Char) : Bool :=
  cs.all (fun c ↦ c != '&' && (c == ' ' || !isSpace c)) && collapse cs == cs

/-- What a start tag demands. Values that are not final are read again if the element has
content. -/
def ofTag (letters : Alphabet) (tag : StartTag) : Demand :=
  let values := (tag.attributes.map (·.2)).filter fun v ↦ !isFinal v
  ⟨if tag.isEmpty then 0 else values.foldl (fun n v ↦ n + octetCount v) 0,
    values.flatMap fun v ↦ references letters v.length v⟩

/-- What content demands. Its comments, instructions and marked sections demand nothing. -/
def ofContentWithin (letters : Alphabet) : Nat → List Char → Demand
  | 0, _ | _, [] => ∅
  | fuel + 1, '<' :: '!' :: '-' :: '-' :: cs => match splitAt? ['-', '-', '>'] cs with
    | some (_, rest) => ofContentWithin letters fuel rest
    | none => ∅
  | fuel + 1, '<' :: '?' :: cs => match splitAt? ['?', '>'] cs with
    | some (_, rest) => ofContentWithin letters fuel rest
    | none => ∅
  | fuel + 1, '<' :: '!' :: '[' :: cs => match splitAt? [']', ']', '>'] cs with
    | some (_, rest) => ofContentWithin letters fuel rest
    | none => ∅
  | fuel + 1, '<' :: cs => match takeStartTag letters fuel cs with
    | some (tag, rest) => ofTag letters tag ++ ofContentWithin letters fuel rest
    | none => ofContentWithin letters fuel cs
  | fuel + 1, '&' :: cs => match takeReference letters cs with
    | some (.entity name, rest) => ⟨0, [name]⟩ ++ ofContentWithin letters fuel rest
    | _ => ofContentWithin letters fuel cs
  | fuel + 1, _ :: cs => ofContentWithin letters fuel cs

def ofContent (letters : Alphabet) (cs : List Char) : Demand :=
  ofContentWithin letters cs.length cs

end Demand

abbrev Sizes := List (List Char × Nat)

def Sizes.size (sizes : Sizes) (name : List Char) : Nat :=
  if (predefined? name).isSome then 1 else (sizes.lookup name).getD 0

def Sizes.total (sizes : Sizes) (names : List (List Char)) : Nat :=
  names.foldl (fun n name ↦ n + sizes.size name) 0

/-- An entity as far as its size goes: what its text takes, and what it demands besides. -/
structure MeasuredEntity where
  name : List Char
  octets : Nat
  demand : Demand

/-- Measures an entity. One outside of the document is never read. -/
def measure (e : List Char × Entity) : MeasuredEntity :=
  match e.2 with
  | .internal text => ⟨e.1, octetCount text, .ofContent .plain text⟩
  | .outside => ⟨e.1, 0, ∅⟩

/-- The sizes of entities that refer to entities of the given sizes. -/
def Sizes.next (entities : List MeasuredEntity) (sizes : Sizes) : Sizes :=
  entities.map fun e ↦ (e.name, e.octets + e.demand.again + sizes.total e.demand.entities)

/-- The sizes of entities nested at most `depth` deep. -/
def Sizes.settle (entities : List MeasuredEntity) : Nat → Sizes → Sizes
  | 0, sizes => sizes
  | depth + 1, sizes =>
    let next := sizes.next entities
    if next == sizes then sizes else settle entities depth next

/-- The sizes of the entities of a document when they are expanded in full. -/
def Declarations.sizes (d : Declarations) : Sizes :=
  Sizes.settle (d.entities.map measure) d.entities.length []

/-- The number of octets that may be read in any case, expanded ones counted as often as they are
read. -/
def freeOctets : Nat := 8388608

/-- How many times the size of the document may be read beyond that. -/
def maxAmplification : Nat := 100

/-- May so much be read in the course of reading a document? -/
def Declarations.affords (d : Declarations) : Bool :=
  let all := d.octets + d.expanded
  all < freeOctets || all ≤ maxAmplification * d.octets

/-- The declarations of a document, once what a part of it demands is taken into account; nothing if
that is too much. -/
def Declarations.spend (d : Declarations) (w : Demand) : Option Declarations :=
  if d.entities.isEmpty || w.entities.isEmpty && w.again == 0 then some d
  else
    let d := { d with
      octets := d.octets + w.again, expanded := d.expanded + d.sizes.total w.entities }
    if d.affords then some d else none

end TypedSearch.Markup
