import TypedSearch.Annotation.Meaning

/-!
# What calls come to

Functions that come up in annotations are called in a frame of their own, which holds what their
parameters stand for. Some functions that need no declaration call others in turn. `runner` says
what all calls come to; calls inside calls go down to a fixed depth, so that a function that never
stops calling itself fails.

## What is covered

The calls that an annotation can make. Modules are known by the names that are listed for them; code
that opens files, reads input or ends the program is not carried.
-/

namespace TypedSearch.Annotation

open Declared (Building)

namespace Runner

/-! ## Functions that call others -/

/-- What things are compared by: what a function makes of each, or the things themselves. -/
def keyed (run : Runner) (key : Declared) (ts : List Declared) :
    Building (List (Declared × Declared)) :=
  if key == .constant .null then return ts.map fun t ↦ (t, t)
  else ts.mapM fun t ↦ do return (← run.call key [t] [], t)

/-- Refuses an argument whose name is none of those that a function knows. -/
def checkKnown (name : String) (known : List String) (named : List (String × Declared)) :
    Except Fault Unit :=
  match named.find? fun n ↦ !known.contains n.1 with
  | some n =>
    Declared.misuse ("'" ++ n.1 ++ "' is an invalid keyword argument for " ++ name ++ "()")
  | none => .ok ()

/-- What `map` makes of a function and rows: what the function makes of their elements side by
side. -/
def mapped (run : Runner) (args : List Declared) : Building Declared := do
  match args with
  | f :: row :: rows =>
    let ts ← ((row :: rows).mapM Declared.elements : Except Fault (List (List Declared)))
    return Declared.walkOf "map" (← (Declared.sideBySide ts).mapM fun us ↦ run.call f us [])
  | _ => (Declared.misuse "map() must have at least two arguments." : Except Fault Declared)

/-- What `filter` makes of a function and a row: the elements of which the function makes something
true. -/
def filtered (run : Runner) (args : List Declared) : Building Declared := do
  match args with
  | [f, row] =>
    let ts ← (Declared.elements row : Except Fault (List Declared))
    let kept ← (← keyed run f ts).filterM fun t ↦ return t.1.isTrue
    return Declared.walkOf "filter" (kept.map Prod.snd)
  | ts => (Declared.wrongCount "filter" 2 2 ts.length : Except Fault Declared)

/-- What `max` and `min` make of arguments. -/
def extreme (run : Runner) (name : String) (args : List Declared)
    (named : List (String × Declared)) :
    Building Declared := do
  checkKnown name ["key", "default"] named
  let ts ← (Declared.candidatesOf name args : Except Fault (List Declared))
  let substitute := named.lookup "default"
  if 1 < args.length && substitute.isSome then
    (Declared.misuse ("Cannot specify a default for " ++ name ++
      "() with multiple positional arguments") : Except Fault Unit)
  let ts ← keyed run ((named.lookup "key").getD (.constant .null)) ts
  (Declared.extremeOf name ts substitute : Except Fault Declared)

/-- What `sorted` makes of arguments. -/
def sorted (run : Runner) (args : List Declared) (named : List (String × Declared)) :
    Building Declared := do
  match args with
  | [row] =>
    let ts ← (Declared.elements row : Except Fault (List Declared))
    checkKnown "sort" ["key", "reverse"] named
    let isReverse ← (Declared.wholeOf ((named.lookup "reverse").getD (.constant (.bool false))) :
      Except Fault Int)
    let turned {α : Type} (xs : List α) : List α := if isReverse == 0 then xs else xs.reverse
    let ts ← keyed run ((named.lookup "key").getD (.constant .null)) ts
    return Declared.rowOf .list
      (turned (← (Declared.sortedBy (turned ts) : Except Fault (List Declared))))
  | ts => (Declared.wrongCount "sorted" 1 1 ts.length : Except Fault Declared)

/-- What looking for an attribute by its name makes of arguments. -/
def looked (run : Runner) (name : String) (args : List Declared) : Building Declared :=
  match args with
  | t :: .constant (.text s) :: more =>
    if more.length < (if name == "getattr" then 2 else 1) then
      fun m ↦ match memberOf run t s m, more with
        | .ok (u, m), _ => .ok (if name == "hasattr" then .constant (.bool true) else u, m)
        | .error (.noAttribute message), [] =>
          if name == "hasattr" then .ok (.constant (.bool false), m)
            else .error (.noAttribute message)
        | .error (.noAttribute _), u :: _ => .ok (u, m)
        | .error f, _ => .error f
    else (Declared.callFunction run.known name args : Except Fault Declared)
  | args => (Declared.callFunction run.known name args : Except Fault Declared)

/-- What the functions and classes make of arguments that call others, or take arguments by name, or
look at what is held on the way. -/
def higher? (run : Runner) (name : String) (args : List Declared)
    (named : List (String × Declared)) :
    Option (Building Declared) :=
  match name, args, named with
  | "map", ts, [] => some (mapped run ts)
  | "filter", ts, [] => some (filtered run ts)
  | "max", ts, named | "min", ts, named => some (extreme run name ts named)
  | "sorted", ts, named => some (sorted run ts named)
  | "getattr", ts, [] | "hasattr", ts, [] => some (looked run name ts)
  | "iter", [t], [] => some (Declared.walk t : Except Fault Declared)
  | "iter", [], [] =>
    some (Declared.misuse "iter expected at least 1 argument, got 0" : Except Fault Declared)
  | "next", ts, [] => some (Declared.nextOf ts : Except Fault Declared)
  | "sum", ts, [("start", t)] | "enumerate", ts, [("start", t)] =>
    some (run.call (standard name) (ts ++ [t]) [])
  | "zip", ts, [("strict", t)] => some do
    let rows ← (ts.mapM Declared.elements : Except Fault (List (List Declared)))
    if t.isTrue && (rows.map List.length).eraseDups.length > 1 then throw (.unsupported "zip")
    run.call (standard name) ts []
  | "print", _, named => some do
    checkKnown "print" ["sep", "end", "file", "flush"] named
    return .constant .null
  | "__import__", ts, [] => some (Declared.importModule ts : Except Fault Declared)
  | _, _, _ => none
where
  /-- What needs no declaration, by its name. -/
  standard (name : String) : Declared := (Declared.standardNames.lookup name).getD .rest

/-! ## All calls -/

/-- What the operation of a thing makes of arguments. -/
def callSlot (run : Runner) (t : Declared) (name : String) (args : List Declared)
    (named : List (String × Declared)) : Building Declared :=
  if name == "call" then run.call t args named
  else match Declared.slotCall? t name args with
    | some (.inl x) => x
    | some (.inr (f, ts)) => run.call ((Declared.standardNames.lookup f).getD .rest) ts []
    | none => throw (.unsupported name)

def callRoutine (run : Runner) (args : List Declared) (named : List (String × Declared)) :
    Routine → Building Declared
  | .written parameters substitutes body scope => do
    let names ← (parameters.bind (scope.path ++ "<lambda>") substitutes args named :
      Except Fault (List (String × Declared)))
    let given := (body.givenNames false).filter fun s ↦ !parameters.names.contains s
    let i ← Building.newFrame (names ++ Building.unbound given)
    evaluate run { scope.inside i "<lambda>" with home := some i } body
  | .method t s =>
    if let some name := Declared.reservedName? s then callSlot run t name args named
    else if (Declared.ownerOf? run.known t s).isSome then
      (Declared.callOwn run.known t s args named : Except Fault Declared)
    else (Declared.callClassMethod t s args : Except Fault Declared)

/-- What a thing makes of arguments, of which some may be given by name. -/
def dispatch (run : Runner) (t : Declared) (args : List Declared)
    (named : List (String × Declared)) :
    Building Declared := do
  match ← Building.routine? t with
  | some r => callRoutine run args named r
  | none => match higher? run t.standardName args named, t with
    | some x, _ => x
    | none, .reader r => match Declared.described? r.shown, Declared.slotShown? r.shown, args with
      | some (o, s), _, _ =>
        (Declared.callDescribed run.known o s args named : Except Fault Declared)
      | none, some (owner, name), [] =>
        (Declared.refuseSlot owner name none : Except Fault Declared)
      | none, some (owner, name), u :: us =>
        if Declared.hasOwner run.known u owner then callSlot run u name us named
        else (Declared.refuseSlot owner name (some u) : Except Fault Declared)
      | none, none, _ => plainCall t
    | none, t => plainCall t
where
  /-- What a thing makes of arguments without calling anything else. -/
  plainCall (t : Declared) : Except Fault Declared :=
    if named.isEmpty then Declared.call run.known t args
      else Declared.callNamed run.known t args named

def tooDeep : Fault := .foreign "RecursionError" "maximum recursion depth exceeded"

/-- What calls come to in annotations of a module, at most `depth` calls deep. -/
def ofDepth (base : Scope) : Nat → Runner
  | 0 => ⟨base.enumeration?, fun _ _ _ ↦ throw tooDeep, fun _ _ ↦ throw tooDeep⟩
  | depth + 1 => ⟨base.enumeration?, fun t args named ↦ dispatch (ofDepth base depth) t args named,
      fun scope s ↦ do
        match if s.startsWith "*" then none else Expr.parse? s with
        | some e => evaluate (ofDepth base depth) scope e
        | none => throw (.foreign "SyntaxError" "invalid syntax")⟩

def maxDepth : Nat := 900

end Runner

/-- What an expression at the top of an annotation stands for. -/
def Expr.meaning (scope : Scope) (e : Expr) : Building Declared :=
  evaluate (Runner.ofDepth scope Runner.maxDepth) scope e

end TypedSearch.Annotation
