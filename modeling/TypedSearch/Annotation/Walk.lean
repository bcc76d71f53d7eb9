import TypedSearch.Annotation.Operator

/-!
# Going through elements

What goes through the elements of a thing once, and what is made of several of these together.
-/

namespace TypedSearch.Declared

def walkOf (family : String) (ts : List Declared) : Declared := .row (.walk family) ts

/-- The class of what goes through the elements of a thing. -/
def walkFamily (t : Declared) : String :=
  match t with
  | .row (.walk family) _ => family
  | .row (.view family) _ =>
    if family == "dict_keys" then "dict_keyiterator"
    else if family == "dict_values" then "dict_valueiterator"
    else "dict_itemiterator"
  | .row .dict _ => "dict_keyiterator"
  | .row .frozenset _ => "set_iterator"
  | .constant (.text s) =>
    if s.toList.all (·.toNat < 128) then "str_ascii_iterator" else "str_iterator"
  | .enumeration _ => "generator"
  | .constant _ | .row .. => t.family ++ "_iterator"
  | _ => "generic_alias_iterator"

/-- Refuses a number of arguments of what takes from `low` to `high` of them. -/
def wrongCount {α : Type} (name : String) (low high n : Nat) : Except Fault α :=
  let many (k : Nat) : String := toString k ++ " argument" ++ (if k == 1 then "" else "s")
  let wanted := if low == high then many low
    else if n < low then "at least " ++ many low else "at most " ++ many high
  misuse (name ++ " expected " ++ wanted ++ ", got " ++ toString n)

def wholeOf (t : Declared) : Except Fault Int :=
  match t.place? with
  | some n => .ok n
  | none => misuse ("'" ++ t.family ++ "' object cannot be interpreted as an integer")

def walk (t : Declared) : Except Fault Declared := do
  return walkOf t.walkFamily (← elements t)

def nothingLeft : Fault := .foreign "StopIteration" ""

def nextOf (args : List Declared) : Except Fault Declared :=
  match args with
  | [.row (.walk _) (t :: _)] | [.row (.walk _) (t :: _), _] => match t.failure? with
    | some fault => .error fault
    | none => .ok t
  | [.row (.walk _) []] => .error nothingLeft
  | [.row (.walk _) [], substitute] => .ok substitute
  | [t] | [t, _] => misuse ("'" ++ t.family ++ "' object is not an iterator")
  | ts => wrongCount "next" 1 2 ts.length

def numbered (first : Int) : List Declared → List Declared
  | [] => []
  | t :: ts => rowOf .tuple [.constant (.int first), t] :: numbered (first + 1) ts

/-- The elements of several rows side by side, as far as the shortest goes. -/
def sideBySide (rows : List (List Declared)) : List (List Declared) :=
  let n := ((rows.map List.length).min?).getD 0
  (List.range n).map fun i ↦ rows.filterMap fun row ↦ row[i]?

/-- The elements of a row from the last to the first. -/
def backwards (t : Declared) : Except Fault Declared :=
  match t.series?, t with
  | some (.list, ts), _ => .ok (walkOf "list_reverseiterator" ts.reverse)
  | some (_, ts), _ => .ok (walkOf "reversed" ts.reverse)
  | none, .row .dict ts => .ok (walkOf "dict_reversekeyiterator" (keysOf ts).reverse)
  | none, .row .range _ => do return walkOf "range_iterator" (← elements t).reverse
  | none, .row (.view family) ts =>
    .ok (walkOf (if family == "dict_keys" then "dict_reversekeyiterator"
      else if family == "dict_values" then "dict_reversevalueiterator"
      else "dict_reverseitemiterator") ts.reverse)
  | none, .constant (.text _) | none, .constant (.bytes _) | none, .enumeration _ => do
    return walkOf "reversed" (← elements t).reverse
  | none, t => misuse ("'" ++ t.family ++ "' object is not reversible")

/-- What the classes that go through elements make of arguments. -/
def callWalk (name : String) (args : List Declared) : Except Fault Declared :=
  match name, args with
  | "zip", ts => do return walkOf "zip" ((sideBySide (← ts.mapM elements)).map (rowOf .tuple))
  | "enumerate", [] => misuse "enumerate() missing required argument 'iterable'"
  | "enumerate", [t] => do return walkOf name (numbered 0 (← elements t))
  | "enumerate", [t, first] => do
    let n ← wholeOf first
    return walkOf name (numbered n (← elements t))
  | "reversed", [t] => backwards t
  | "reversed", ts => wrongCount name 1 1 ts.length
  | name, _ => .error (.unsupported name)

/-! ## Order -/

/-- Things in the order of what stands before each of them. -/
def sortedBy (ts : List (Declared × Declared)) : Except Fault (List Declared) := do
  return (← ts.foldlM (fun made t ↦ insert t made.reverse) []).map Prod.snd
where
  /-- Puts a thing behind those that it is not less than, the last of which comes first; the row
  comes out in order. -/
  insert (t : Declared × Declared) : List (Declared × Declared) →
    Except Fault (List (Declared × Declared))
    | [] => .ok [t]
    | u :: us => do
      if ← compares .less t.1 u.1 then return (← insert t us) ++ [u]
      else return us.reverse ++ [u, t]

def sortedRow (ts : List Declared) : Except Fault (List Declared) :=
  sortedBy (ts.map fun t ↦ (t, t))

/-! ## Pairs -/

/-- Keys and values by turns with those of a row of pairs. -/
def putPairs (made : List Declared) (pairs : List Declared) : Except Fault (List Declared) :=
  pairs.zipIdx.foldlM (fun made p ↦ do
    let place := "dictionary update sequence element #" ++ toString p.2
    match p.1.elements? with
    | some [k, v] =>
      k.checkKey
      return putPair k v made
    | some ts =>
      .error (.badValue (place ++ " has length " ++ toString ts.length ++ "; 2 is required"))
    | none => misuse ("cannot convert " ++ place ++ " to a sequence")) made

/-- Is the thing the class of dictionaries, with or without arguments? It is asked for its keys like
a dictionary. -/
def isDictClass : Declared → Bool
  | .container .dict _ | .applied .dict _ _ => true
  | _ => false

def unboundKeys : String := "unbound method dict.keys() needs an argument"

/-- Keys and values by turns with those that a thing holds: a dictionary, or a row of pairs. -/
def putAll (made : List Declared) (t : Declared) : Except Fault (List Declared) :=
  match t with
  | .row .dict ts => .ok (go made ts)
  | t => if t.isDictClass then misuse unboundKeys else do putPairs made (← elements t)
where
  /-- Keys and values by turns with those of another dictionary. -/
  go (made : List Declared) : List Declared → List Declared
    | k :: v :: more => go (putPair k v made) more
    | _ => made

/-- Keys and values by turns as a row of pairs. -/
def pairsOf : List Declared → List Declared
  | k :: v :: more => rowOf .tuple [k, v] :: pairsOf more
  | _ => []

/-- The values among keys and values by turns. -/
def valuesOf : List Declared → List Declared
  | _ :: v :: more => v :: valuesOf more
  | _ => []

/-- Keys and values by turns without those of a key. -/
def dropKey (key : Declared) : List Declared → List Declared
  | k :: v :: more => if alike k key then more else k :: v :: dropKey key more
  | others => others

end TypedSearch.Declared
