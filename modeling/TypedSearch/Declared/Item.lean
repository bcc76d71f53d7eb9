import TypedSearch.Declared.Likeness
import TypedSearch.Declared.Name
import TypedSearch.Value.Arithmetic

/-!
# Items of rows

What a key in brackets finds in a text, a tuple, a list or a dictionary: an item, counted from the
end by a negative place, or a section from one place to another in steps.
-/

namespace TypedSearch.Declared

abbrev misuse {α : Type} (message : String) : Except Fault α := .error (.wrongType message)

def place? : Declared → Option Int
  | .constant v => v.whole?
  | _ => none

/-- The index into a row of `n` items that a place is, if the row goes as far. -/
def index? (n : Nat) (i : Int) : Option Nat :=
  let i := if i < 0 then i + n else i
  if 0 ≤ i ∧ i < n then some i.toNat else none

def endOf : Declared → Except Fault (Option Int)
  | .constant .null => .ok none
  | t => match t.place? with
    | some i => .ok (some i)
    | none => misuse "slice indices must be integers or None or have an __index__ method"

/-- An end of a section of a row of `n` items, moved into the row; `low` and `high` are its
limits. -/
def clampEnd (n : Nat) (low high : Int) (i : Int) : Int :=
  let i := if i < 0 then i + n else i
  max low (min high i)

/-- Where a section of a row of `n` items starts and ends, and in which steps. -/
def sectionBounds (n : Nat) (start stop step : Option Int) : Except Fault (Int × Int × Int) :=
  let step := step.getD 1
  if step = 0 then .error (.badValue "slice step cannot be zero")
  else
    let forward := 0 < step
    let low : Int := if forward then 0 else -1
    let high : Int := if forward then n else n - 1
    .ok ((start.map (clampEnd n low high)).getD (if forward then low else high),
      (stop.map (clampEnd n low high)).getD (if forward then high else low), step)

/-- The indices that a section of a row of `n` items takes. -/
def sectionIndices (n : Nat) (start stop step : Option Int) : Except Fault (List Nat) :=
  (sectionBounds n start stop step).map fun (first, last, step) ↦
    (List.range n).filterMap fun (k : Nat) ↦
      let i := first + step * k
      if (if 0 < step then i < last else last < i) then some i.toNat else none

def sectionOf {α : Type} (xs : List α) (ends : List Declared) : Except Fault (List α) := do
  match ← ends.mapM endOf with
  | [start, stop, step] =>
    return (← sectionIndices xs.length start stop step).filterMap fun i ↦ xs[i]?
  | _ => return []

/-- The item at a place, or those of a section; `what` names the row in messages, and `single` and
`many` turn what is found into a type. -/
def itemOf {α : Type} (what refusal : String) (xs : List α) (single : α → Declared)
    (many : List α → Declared) (key : Declared) : Except Fault Declared :=
  match key with
  | .row .slice ends => (sectionOf xs ends).map many
  | key => match key.place? with
    | none => misuse refusal
    | some i => match (index? xs.length i).bind fun k ↦ xs[k]? with
      | some x => .ok (single x)
      | none => .error (.beyondEnd what)

/-- The first, the number and the step of the whole numbers from one end up to the other. -/
def countedBy? (ends : List Declared) : Option (Int × Nat × Int) :=
  match ends.mapM place? with
  | some [a, b, k] =>
    let n := if 0 < k then (b - a + k - 1) / k else if k < 0 then (a - b - k - 1) / (-k) else 0
    some (a, n.toNat, k)
  | _ => none

def wholeNumbers (ends : List Declared) : List Int :=
  match countedBy? ends with
  | some (a, n, k) => (List.range n).map fun (i : Nat) ↦ a + k * i
  | none => []

/-- The value that goes with a key among keys and values by turns. -/
def valueAt? (key : Declared) : List Declared → Option Declared
  | k :: v :: more => if alike k key then some v else valueAt? key more
  | _ => none

def item (t key : Declared) : Except Fault Declared :=
  let refusal (what : String) : String :=
    what ++ " indices must be integers or slices, not " ++ key.family
  match t with
  | .constant (.text s) | .constant (.code _ s _) =>
    itemOf "string" ("string indices must be integers, not '" ++ key.family ++ "'") s.toList
      (fun c ↦ .constant (.text (.singleton c))) (fun cs ↦ .constant (.text (.ofList cs))) key
  | .constant (.bytes bs) =>
    itemOf "" (refusal "byte") bs (fun b ↦ .constant (.int b.toNat))
      (fun bs ↦ .constant (.bytes bs)) key
  | .constant (.tuple xs) =>
    itemOf "tuple" (refusal "tuple") (xs.map .constant) id (rowOf .tuple) key
  | .row .tuple ts => itemOf "tuple" (refusal "tuple") ts id (rowOf .tuple) key
  | .constant (.list xs) => itemOf "list" (refusal "list") (xs.map .constant) id (rowOf .list) key
  | .row .list ts => itemOf "list" (refusal "list") ts id (rowOf .list) key
  | .row .dict ts => do
    key.checkKey
    match valueAt? key ts with
    | some v => return v
    | none => .error (.unknownKey key.inspect)
  | .row .range ends => match key with
    | .row .slice parts => do
      match ← parts.mapM endOf, countedBy? ends with
      | [start, stop, step], some (a, n, k) =>
        let (first, last, step) ← sectionBounds n start stop step
        return .row .range ([a + k * first, a + k * last, k * step].map fun n ↦ .constant (.int n))
      | _, _ => .error (.unsupported "range")
    | key => match key.place?, countedBy? ends with
      | none, _ | _, none => misuse (refusal "range")
      | some i, some (a, n, k) => match index? n i with
        | some i => .ok (.constant (.int (a + k * i)))
        | none => .error (.beyondEnd "range object")
  | t => misuse ("'" ++ t.family ++ "' object is not subscriptable")

example : (sectionIndices 4 none none (some (-2))).toOption = some [3, 1] ∧
    (sectionIndices 4 (some (-3)) (some 9) none).toOption = some [1, 2, 3] := by decide +kernel

end TypedSearch.Declared
