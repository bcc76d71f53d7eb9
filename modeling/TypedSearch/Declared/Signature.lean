import TypedSearch.Fault
import TypedSearch.Named
import TypedSearch.Value.Basic

/-!
# Signatures

What a constructor wants to be called with, and what comes of calling it. A constructor stores some
of its arguments. What it does beyond that is not carried here as code but as what it comes to,
whatever the arguments are: it sets some members, or fails.
-/

namespace TypedSearch

/-- How a parameter takes its arguments. -/
inductive ParameterStyle where
  | positional
  | keywordOnly
  /-- Takes all positional arguments that are left. -/
  | rest
  /-- Takes all keyword arguments that are left. -/
  | keywords
deriving DecidableEq, Repr

structure Parameter where
  name : String
  style : ParameterStyle
  default : Option Value
deriving DecidableEq

def Parameter.isRequired (p : Parameter) : Bool :=
  p.default.isNone && (p.style == .positional || p.style == .keywordOnly)

/-- What code written by hand does to a new object. -/
inductive Effect where
  | sets (members : List (String × Value))
  | fails (f : Fault)
deriving DecidableEq

structure Signature where
  parameters : List Parameter
  /-- The parameters whose arguments are stored in the members of their names. -/
  kept : List String
  effect : Effect
deriving DecidableEq

namespace Signature

/-- The constructor that takes nothing and does nothing. -/
def empty : Signature := ⟨[], [], .sets []⟩

def required (s : Signature) : List String :=
  (s.parameters.filter Parameter.isRequired).map Parameter.name

/-- The arguments by name when the only one given is `v`, if the constructor takes exactly that. -/
def applyOne? (s : Signature) (v : Value) : Option (List (String × Value)) :=
  match s.parameters with
  | p :: ps =>
    if ps.any Parameter.isRequired then none
    else match p.style with
      | .positional =>
        some ((p.name, v) :: ps.filterMap fun q ↦ q.default.map fun d ↦ (q.name, d))
      | .rest => some []
      | _ => none
  | [] => none

/-- The arguments by name when none is given, if the constructor takes that. -/
def applyNone? (s : Signature) : Option (List (String × Value)) :=
  if s.parameters.any Parameter.isRequired then none
  else some (s.parameters.filterMap fun q ↦ q.default.map fun d ↦ (q.name, d))

/-- The members that a new object gets from arguments. What is set beyond the arguments is set
later. -/
def members (s : Signature) (args : List (String × Value)) :
    Except Fault (List (String × Value)) :=
  match s.effect with
  | .sets more =>
    let kept := args.filter fun a ↦ s.kept.contains a.1
    .ok ((kept ++ more).foldl (fun ms a ↦ putNamed Prod.fst a ms) [])
  | .fails f => .error f

/-- Goes on with the arguments that a call gives, if they fit. -/
def call (s : Signature) (args : Option (List (String × Value))) :
    Except Fault (List (String × Value)) :=
  match args with
  | some args => s.members args
  | none => .error (.wrongType "arguments do not fit")

end Signature

end TypedSearch
