import TypedSearch.Annotation.Scope
import TypedSearch.Declared.Elements

/-!
# Binding names

What the names of a clause stand for when it has come to an element, and what the parameters of a
function stand for when it is called.
-/

namespace TypedSearch.Annotation

/-! ## Clauses -/

/-- Refuses a number of items, of which another number is wanted. -/
def wrongItems {α : Type} (wanted : String) (isFew : Bool) (n : Nat) : Except Fault α :=
  .error (.badValue (if isFew then
      "not enough values to unpack (expected " ++ wanted ++ ", got " ++ toString n ++ ")"
    else "too many values to unpack (expected " ++ wanted ++ ")"))

/-- The items of an element, one for each of `n` targets, of which the `star`-th gets all that the
others leave. -/
def partsOf (n : Nat) (star : Option Nat) (t : Declared) : Except Fault (List Declared) :=
  if t.elements?.isNone then
    Declared.misuse ("cannot unpack non-iterable " ++ t.family ++ " object")
  else match t.elements, star with
  | .error f, _ => .error f
  | .ok ts, none =>
    if ts.length < n then wrongItems (toString n) true ts.length
    else if n < ts.length then wrongItems (toString n) false ts.length
    else .ok ts
  | .ok ts, some i =>
    if ts.length + 1 < n then wrongItems ("at least " ++ toString (n - 1)) true ts.length
    else
      let further := ts.length + 1 - n
      .ok (ts.take i ++ Declared.rowOf .list ((ts.drop i).take further) :: ts.drop (i + further))

def Target.isOthers : Target → Bool
  | .others _ => true
  | _ => false

mutual

/-- What the names of a target stand for when it has come to an element. -/
def Target.bindings : Target → Declared → Except Fault (List (String × Declared))
  | .name s, t => .ok [(s, t)]
  | .others target, t => target.bindings t
  | .parts targets, t => do
    bindAll targets (← partsOf targets.length (targets.findIdx? Target.isOthers) t)

/-- What the names of some targets stand for, each with its item. -/
def bindAll : List Target → List Declared → Except Fault (List (String × Declared))
  | target :: targets, t :: ts => do return (← target.bindings t) ++ (← bindAll targets ts)
  | _, _ => .ok []

end

/-! ## Parameters -/

def counted (n : Nat) (sort : String) : String :=
  toString n ++ " " ++ sort ++ " argument" ++ if n == 1 then "" else "s"

/-- Names with commas between them and a word before the last. -/
def enumerated : List String → String
  | [] => ""
  | [s] => s
  | [s, t] => s ++ " and " ++ t
  | [s, t, u] => s ++ ", " ++ t ++ ", and " ++ u
  | s :: more => s ++ ", " ++ enumerated more

/-- Refuses a call that leaves out parameters, if there are some. -/
def checkMissing (name sort : String) (missing : List String) : Except Fault Unit :=
  if missing.isEmpty then .ok ()
  else Declared.misuse (name ++ "() missing " ++ counted missing.length ("required " ++ sort) ++
    ": " ++ enumerated (missing.map Text.quoted))

namespace Parameters

/-- The arguments by name of a call: those for parameters, and the others. -/
def sortNamed (p : Parameters) (name : String) (inOrder : List String)
    (named : List (String × Declared)) :
    Except Fault (List (String × Declared) × List (String × Declared)) :=
  let known := p.ordered.drop p.bare ++ p.named
  let step (sorted : List (String × Declared) × List (String × Declared)) (n : String × Declared) :
      Except Fault (List (String × Declared) × List (String × Declared)) :=
    if known.contains n.1 then
      if inOrder.contains n.1 then
        Declared.misuse (name ++ "() got multiple values for argument '" ++ n.1 ++ "'")
      else .ok (sorted.1 ++ [n], sorted.2)
    else if p.otherNamed.isSome then .ok (sorted.1, sorted.2 ++ [n])
    else
      match (p.ordered.take p.bare).filter fun s ↦ named.any fun m ↦ m.1 == s with
      | [] => Declared.misuse (name ++ "() got an unexpected keyword argument '" ++ n.1 ++ "'")
      | bare =>
        Declared.misuse (name ++ "() got some positional-only arguments passed as keyword " ++
          "arguments: '" ++ ", ".intercalate bare ++ "'")
  named.foldlM step ([], [])

/-- Refuses more arguments in order than there are parameters for, unless one takes those that are
left; `byName` is the number of arguments given for parameters that go by name only. -/
def checkCount (p : Parameters) (name : String) (n byName : Nat) : Except Fault Unit :=
  let most := p.ordered.length
  if n ≤ most || p.others.isSome then .ok ()
  else
    let least := (p.ordered.filter fun s ↦ !p.optional.contains s).length
    let takes := if least < most then
        "from " ++ toString least ++ " to " ++ toString most ++ " positional arguments"
      else counted most "positional"
    let given := if byName == 0 then toString n
      else counted n "positional" ++ " (and " ++ counted byName "keyword-only" ++ ")"
    Declared.misuse (name ++ "() takes " ++ takes ++ " but " ++ given ++
      (if n == 1 && byName == 0 then " was given" else " were given"))

/-- What the parameters of a function stand for when it is called. -/
def bind (p : Parameters) (name : String) (substitutes : List (String × Declared))
    (args : List Declared) (named : List (String × Declared)) :
    Except Fault (List (String × Declared)) := do
  let inOrder := p.ordered.zip args
  let (own, further) ← p.sortNamed name (inOrder.map Prod.fst) named
  p.checkCount name args.length (own.filter fun n ↦ p.named.contains n.1).length
  let given := inOrder ++ own
  let isMissing (s : String) : Bool := (given.lookup s).isNone && (substitutes.lookup s).isNone
  checkMissing name "positional" (p.ordered.filter isMissing)
  checkMissing name "keyword-only" (p.named.filter isMissing)
  let bound := (p.ordered ++ p.named).filterMap fun s ↦
    (given.lookup s <|> substitutes.lookup s).map fun t ↦ (s, t)
  let others := p.others.toList.map fun s ↦ (s, Declared.rowOf .tuple (args.drop p.ordered.length))
  let otherNamed := p.otherNamed.toList.map fun s ↦
    (s, Declared.row .dict (further.flatMap fun n ↦ [.constant (.text n.1), n.2]))
  return bound ++ others ++ otherNamed

end Parameters

example : ((Parameters.mk ["x", "y"] 0 (some "more") [] none ["y"]).bind "f" [("y", .rest)]
    [.constant (.int 1)] []).toOption =
      some [("x", .constant (.int 1)), ("y", .rest), ("more", .constant (.tuple []))] := by
  decide +kernel

end TypedSearch.Annotation
