import TypedSearch.Fault
import TypedSearch.Text.Blank

/-!
# Sorting

The order in which documents are wanted, as keys and as text: `title asc,id desc`.

## What is covered

`SortKey.parse` and `Sorting.parse` are the readers of one order and of a row of them, `render` is
`to_param`.
-/

namespace TypedSearch.Query

open Text

inductive Direction where
  | asc
  | desc
deriving DecidableEq, Repr

namespace Direction

def name : Direction → String
  | .asc => "asc"
  | .desc => "desc"

def ofChars? : List Char → Option Direction
  | ['a', 's', 'c'] => some .asc
  | ['d', 'e', 's', 'c'] => some .desc
  | _ => none

def ofName (name : String) : Except Fault Direction :=
  match ofChars? name.toList with
  | some d => .ok d
  | none => .error (.badOrder name)

@[simp] theorem ofChars?_name (d : Direction) : ofChars? d.name.toList = some d := by
  cases d <;> decide

end Direction

structure SortKey where
  field : String
  direction : Direction
deriving DecidableEq, Repr

namespace SortKey

def render (k : SortKey) : String := k.field ++ " " ++ k.direction.name

/-- The sort key made of the given words: a field, and a direction in any case unless it is the
ascending one. -/
def ofWords? : List (List Char) → Option SortKey
  | [field] => some ⟨.ofList field, .asc⟩
  | [field, order] =>
    (Direction.ofChars? (order.map Char.toLower)).map fun d ↦ ⟨.ofList field, d⟩
  | _ => none

def parse (cs : List Char) : Except Fault SortKey :=
  match ofWords? (words cs) with
  | some k => .ok k
  | none => .error (.badSort (.ofList cs))

end SortKey

/-- The keys to sort by, the first one foremost. -/
structure Sorting where
  keys : List SortKey
deriving DecidableEq, Repr

namespace Sorting

def empty : Sorting := ⟨[]⟩

/-- The sorting with one more key, which decides where the others do not. -/
def andThen (s : Sorting) (field : String) (direction : Direction) : Sorting :=
  ⟨s.keys ++ [⟨field, direction⟩]⟩

def render (s : Sorting) : String := ",".intercalate (s.keys.map SortKey.render)

def parts (cs : List Char) : List (List Char) :=
  (pieces (· == ',') cs).filter fun part ↦ !part.all isBlank

/-- Reads a sorting: sort keys with commas between them; blank parts do not count. -/
def parse (text : String) : Except Fault Sorting :=
  ((parts text.toList).mapM SortKey.parse).map (⟨·⟩)

end Sorting

end TypedSearch.Query
