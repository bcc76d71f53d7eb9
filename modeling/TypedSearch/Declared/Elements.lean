import TypedSearch.Declared.Item
import TypedSearch.Value.Order

/-!
# Elements of things

What stands in a thing, one after the other: the items of a row, the characters of a text, the keys
of a dictionary, the members of an enumeration. `Declared.elements?` lists them, and
`Declared.spread` is what a star before a thing puts in its place.
-/

namespace TypedSearch.Declared

def isTrue : Declared → Bool
  | .constant v => v.isTrue
  | .row .slice _ => true
  | .row .range ts => (countedBy? ts).any fun c ↦ c.2.1 != 0
  | .row (.walk _) _ => true
  | .row _ ts => !ts.isEmpty
  | _ => true

def display (t : Declared) : Except Fault String :=
  match t with
  | .constant v => v.display?
  | t => .ok t.inspect

def series? : Declared → Option (RowForm × List Declared)
  | .constant (.tuple xs) => some (.tuple, xs.map .constant)
  | .constant (.list xs) => some (.list, xs.map .constant)
  | .row .tuple ts => some (.tuple, ts)
  | .row .list ts => some (.list, ts)
  | _ => none

def symbols (e : Enumeration) : List Declared :=
  e.members.map fun m ↦ .constant (.symbol e.className.name m.1 m.2 e.whole)

/-- The keys among keys and values by turns. -/
def keysOf : List Declared → List Declared
  | k :: _ :: more => k :: keysOf more
  | _ => []

/-- Keys and values by turns with one more pair; a key that is there already gets the new value. -/
def putPair (k v : Declared) : List Declared → List Declared
  | k' :: v' :: more => if alike k' k then k' :: v :: more else k' :: v' :: putPair k v more
  | others => others ++ [k, v]

def maxCounted : Nat := 100000

/-- The elements of a thing, if it has any. A type with arguments has one: its elements in its
place. -/
def elements? (t : Declared) : Option (List Declared) :=
  match t.series?, t with
  | some (_, ts), _ => some ts
  | none, .constant v => v.items?.map fun vs ↦ vs.map .constant
  | none, .row .set ts | none, .row .frozenset ts | none, .row (.walk _) ts
  | none, .row (.view _) ts =>
    some ts
  | none, .row .dict ts => some (keysOf ts)
  | none, .row .range ts =>
    if (countedBy? ts).any fun c ↦ maxCounted < c.2.1 then none
    else some ((wholeNumbers ts).map fun n ↦ .constant (.int n))
  | none, .enumeration e => some (symbols e)
  | none, .unpacked (.applied _ .plain _) | none, .unpacked (.appliedOther ..) => some [t]
  | none, .applied .. | none, .appliedOther .. | none, .classVar _ | none, .literal _
  | none, .unpacked _ => some [.unpacked t]
  | none, _ => none

/-- The elements of a thing one by one; one that is not found stands at the end. -/
def steps (t : Declared) : Except Fault (List Declared) :=
  match t.elements? with
  | some ts => .ok ts
  | none => misuse ("'" ++ t.family ++ "' object is not iterable")

/-- The elements of a thing; fails if one is not found. -/
def elements (t : Declared) : Except Fault (List Declared) := do
  let ts ← t.steps
  match ts.getLast?.bind failure? with
  | some fault => .error fault
  | none => return ts

/-- The elements that a star before a thing spreads; `place` names in messages where it stands, if
that matters. -/
def spread (place : String) (t : Declared) : Except Fault (List Declared) :=
  match t with
  | .container _ .alias | .special _ | .union .brackets _ => t.elements
  | t =>
    if place.isEmpty || t.elements?.isSome then t.elements
    else misuse (place ++ " after * must be an iterable, not " ++ t.family)

example : (elements (.constant (.text "ab"))).toOption =
    some [.constant (.text "a"), .constant (.text "b")] ∧
    keysOf [.rest, null, null, .rest] = [.rest, null] := by decide +kernel

end TypedSearch.Declared
