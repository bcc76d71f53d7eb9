import TypedSearch.Annotation.Expression
import TypedSearch.Annotation.Scope
import TypedSearch.Declared.Item

/-!
# Building declared types

Giving arguments to a type and joining types to a union. Aliases and special forms check and convert
their arguments, while the classes themselves take any; unions flatten, drop members that are alike
and collapse when one is left.

An alias or a special form remembers what it has built: asked for arguments that are alike, it
answers with the type built first, however that was written. `Building` computations carry this
memory, and with it the functions and the names that annotations come to hold on the way.
-/

namespace TypedSearch.Declared

open Annotation

/-! ## Memory -/

/-- Are two keys the same to a head? A literal type tells the classes of its values apart. -/
def sameKey (head a b : Declared) : Bool :=
  let parts? : Declared → Option (List Value)
    | .constant (.tuple vs) => some vs
    | .constant v => some [v]
    | _ => none
  if head = .special .literal then
    match parts? a, parts? b with
    | some vs, some ws => vs.length == ws.length && (vs.zip ws).all fun p ↦ sameLiteral p.1 p.2
    | _, _ => false
  else alike a b

/-- What was built for a head and a key, or what is built now and remembered. -/
def remembered (head key : Declared) (build : Building Declared) : Building Declared := do
  match (← get).built.find? fun b ↦ b.head == head && sameKey head b.key key with
  | some b => return b.result
  | none =>
    let t ← build
    if key.keyFault?.isNone then modify fun m ↦ { m with built := ⟨head, key, t⟩ :: m.built }
    return t

/-! ## Arguments -/

/-- A plain value as an argument: the null value stands for its class, a text for the type it names,
which has to be an expression. -/
def convertArgument : Declared → Except Fault Declared
  | .constant .null => .ok null
  | .constant (.text s) | .constant (.code _ s _) => (Expr.parse s).map fun _ ↦ .forward s
  | t => .ok t

/-- The text of something in a message that keeps to a hundred characters. -/
def clipped (t : Declared) : String := .ofList (t.inspect.toList.take 100)

/-- Refuses what is no type, in the words of `wording`. A class-variable form passes only at the top
of an annotation. -/
def checkArgument (wording : String) (atTop : Bool) : Declared → Except Fault Declared
  | .classVar t =>
    if atTop then .ok (.classVar t)
    else misuse ((Declared.classVar t).shown ++ " is not valid as type argument")
  | .special f =>
    if atTop && f == .classVar then .ok (.special f)
    else misuse ("Plain " ++ f.full ++ " is not valid as type argument")
  | t => if t.isTuple then misuse (wording ++ " Got " ++ t.clipped ++ ".") else .ok t

def argument (wording : String) (t : Declared) : Except Fault Declared := do
  checkArgument wording false (← convertArgument t)

/-! ## Unions -/

def unionMembers : Declared → List Declared
  | .union _ members => members
  | t => [t]

/-- The union of some types: its own members flattened, and those alike only once; or the only
one. -/
def unionOf (style : UnionStyle) (ts : List Declared) : Declared :=
  match distinct (ts.flatMap unionMembers) with
  | [t] => t
  | members => .union style members

def unionWording : String := "Union[arg, ...]: each arg must be a type."

def bracketUnion (key : Declared) : Building Declared :=
  remembered (.special .union) key do
    if key.parameters.isEmpty then misuse "Cannot take a Union of no types."
    else
      let ts ← key.parameters.mapM fun t ↦ (argument unionWording t : Except Fault Declared)
      match firstKeyFault? (ts.flatMap unionMembers) with
      | some message => misuse message
      | none => return unionOf .brackets ts

/-- Is the type one of the forms that turn a bar into a union in brackets? -/
def joinsInBrackets : Declared → Bool
  | .container _ .alias | .applied _ .alias _ | .special _ | .classVar _ | .literal _
  | .union .brackets _ | .forward _ => true
  | .unpacked (.applied _ .plain _) | .unpacked (.appliedOther ..) => false
  | .unpacked _ => true
  | _ => false

def joinsWithBars : Declared → Bool
  | .applied _ .plain _ | .appliedOther .. | .union .bars _ => true
  | t => t.isClass

/-- Refuses two operands that an operator has no meaning for. -/
def unsupportedOperands {α : Type} (op : BinaryOp) (a b : Declared) : Except Fault α :=
  misuse ("unsupported operand type(s) for " ++ op.mark ++ ": '" ++ a.family ++ "' and '" ++
    b.family ++ "'")

/-- What an operator makes of two plain values. -/
def combineConstants (op : BinaryOp) (v w : Value) : Except Fault Declared :=
  match Value.combine op v w with
  | some x => x.map .constant
  | none => unsupportedOperands op (.constant v) (.constant w)

/-- What stands for two things with a bar between them: the union of two types, the bits of two
numbers. -/
def bar (a b : Declared) : Building Declared :=
  let isNull (t : Declared) : Bool := t == .constant .null
  let member (t : Declared) : Declared := if isNull t then null else t
  if a.joinsInBrackets || b.joinsInBrackets then bracketUnion (rowOf .tuple [a, b])
  else if (a.joinsWithBars || b.joinsWithBars) && (a.joinsWithBars || isNull a) &&
      (b.joinsWithBars || isNull b) then
    return unionOf .bars [member a, member b]
  else match a, b with
    | .constant v, .constant w => combineConstants .or v w
    | a, b => unsupportedOperands .or a b

/-! ## Giving arguments -/

/-- The number of arguments that an alias wants, unless it takes any. -/
def arity? : Family → Option Nat
  | .tuple => none
  | .dict | .mapping => some 2
  | _ => some 1

def checkArity (f : Family) (n : Nat) : Except Fault Unit :=
  match arity? f with
  | none => .ok ()
  | some k =>
    if n = k then .ok ()
    else misuse ("Too " ++ (if k < n then "many" else "few") ++ " arguments for " ++
      f.full .alias ++ "; actual " ++ toString n ++ ", expected " ++ toString k)

def aliasWording (f : Family) (hasRest : Bool) : String :=
  if f != .tuple then "Parameters to generic types must be types."
  else if hasRest then "Tuple[t, ...]: t must be a type."
  else "Tuple[t0, t1, ...]: each t must be a type."

/-- The arguments of an alias; dots at the end of a tuple's stay as they are. -/
def aliasArguments (f : Family) (ts : List Declared) : Except Fault (List Declared) :=
  if f == .tuple && ts.length ≥ 2 && ts.getLast? == some .rest then do
    return (← ts.dropLast.mapM (argument (aliasWording f true))) ++ [.rest]
  else ts.mapM (argument (aliasWording f false))

/-- The values of a literal type: those of literal types among them in their place, and repeated
ones once, unless one of them cannot be a key. -/
def literalOf (ts : List Declared) : Except Fault Declared := do
  let values ← ts.mapM fun t ↦ match t with
    | .literal vs => .ok vs
    | .constant v => .ok [v]
    | t => .error (.unsupported t.shown)
  let values := values.flatten
  if (Value.firstKeyFault? values).isSome then return .literal values
  else return .literal (go [] values)
where
  /-- The values that are unlike those seen before, the latest first, and unlike each other. -/
  go (seen : List Value) : List Value → List Value
    | [] => seen.reverse
    | v :: vs => if seen.any (sameLiteral · v) then go seen vs else go (v :: seen) vs

def memberNamed (e : Enumeration) (key : Declared) : Except Fault Declared := do
  key.checkKey
  match key with
  | .constant v =>
    match v.text?.bind fun s ↦ (e.members.lookup s).map fun x ↦ (s, x) with
    | some (name, x) => return .constant (.symbol e.className.name name x e.whole)
    | none => .error (.unknownKey key.inspect)
  | key => .error (.unknownKey key.inspect)

def refusingName : Declared → String
  | .base .moment => "datetime.datetime"
  | .base .date => "datetime.date"
  | .base .decimal => "decimal.Decimal"
  | .other c => if c.className.home == "types" then c.className.full else c.className.name
  | t => t.name

def subscript (head key : Declared) : Building Declared :=
  match head with
  | .container f .plain => return .applied f .plain key.parameters
  | .container f .alias => remembered head key do
    let args ← (aliasArguments f key.parameters : Except Fault _)
    checkArity f args.length
    return .applied f .alias args
  | .special .union => bracketUnion key
  | .special .optional => remembered head key do
    let t ← (argument "typing.Optional requires a single type." key : Except Fault _)
    bracketUnion (rowOf .tuple [t, null])
  | .special .classVar => remembered head key do
    return .classVar (← (argument "typing.ClassVar accepts only single type." key : Except Fault _))
  | .special .literal => remembered head key (literalOf key.parameters)
  | .enumeration e => memberNamed e key
  | .other c =>
    if c.takesArguments then return .appliedOther c key.parameters
    else misuse ("type '" ++ head.refusingName ++ "' is not subscriptable")
  | .applied .. | .appliedOther .. | .union .. | .classVar _ | .literal _ | .unpacked _ =>
    misuse (head.shown ++ " is not a generic class")
  | t =>
    if t.isClass then misuse ("type '" ++ t.refusingName ++ "' is not subscriptable")
      else item t key

end TypedSearch.Declared
