import TypedSearch.Annotation.Template
import TypedSearch.Declared.Construction

/-!
# Operators in annotations

What operators make of the things that an annotation may stand for. Types know bars and comparisons
for equality alone; rows can be joined, repeated, compared and searched; everything else is left to
the operators on values.
-/

namespace TypedSearch.Declared

open Annotation

/-! ## Joining -/

def seriesName (form : RowForm) : String := if form = .tuple then "tuple" else "list"

/-- Two things one after the other. -/
def join (a b : Declared) : Except Fault Declared :=
  match a.series?, b.series? with
  | some (f, as), some (g, bs) =>
    if f = g then .ok (rowOf f (as ++ bs))
    else misuse ("can only concatenate " ++ seriesName f ++ " (not \"" ++ seriesName g ++
      "\") to " ++ seriesName f)
  | some (f, _), none =>
    misuse ("can only concatenate " ++ seriesName f ++ " (not \"" ++ b.family ++ "\") to " ++
      seriesName f)
  | none, _ =>
    match a, b with
    | .constant v, .constant w => combineConstants .add v w
    | .constant v, b => match v.text?, v with
      | some _, _ => misuse ("can only concatenate str (not \"" ++ b.family ++ "\") to str")
      | none, .bytes _ => misuse ("can't concat " ++ b.family ++ " to bytes")
      | none, _ => unsupportedOperands .add a b
    | _, _ => unsupportedOperands .add a b

def isRepeatable : Declared → Bool
  | .constant (.text _) | .constant (.code ..) | .constant (.bytes _) => true
  | t => t.series?.isSome

/-- A thing repeated, or the product of two numbers. -/
def times (a b : Declared) : Except Fault Declared :=
  let many (n : Int) (t : Declared) : Except Fault Declared :=
    match t.series?, t with
    | some (f, ts), _ => .ok (rowOf f (Value.repeated n ts))
    | none, .constant v => combineConstants .multiply v (.int n)
    | none, t => unsupportedOperands .multiply t (.constant (.int n))
  let refuse (t : Declared) : Except Fault Declared :=
    misuse ("can't multiply sequence by non-int of type '" ++ t.family ++ "'")
  match a.isRepeatable, b.isRepeatable with
  | true, _ => match b.place? with
    | some n => many n a
    | none => refuse b
  | false, true => match a.place? with
    | some n => many n b
    | none => refuse a
  | false, false => match a, b with
    | .constant v, .constant w => combineConstants .multiply v w
    | a, b => unsupportedOperands .multiply a b

/-! ## Sets and dictionaries -/

def set? : Declared → Option (RowForm × List Declared)
  | .row .set ts => some (.set, ts)
  | .row .frozenset ts => some (.frozenset, ts)
  | .row (.view f) ts => if f == "dict_values" then none else some (.set, ts)
  | _ => none

def sift (areIn : Bool) (as bs : List Declared) : List Declared :=
  as.filter fun a ↦ covers bs a == areIn

/-- The items of two sets together by an operator, if it has a meaning for sets. -/
def setItems? (op : BinaryOp) (as bs : List Declared) : Option (List Declared) :=
  match op with
  | .or => some (distinct (as ++ bs))
  | .and => some (sift true as bs)
  | .subtract => some (sift false as bs)
  | .xor => some (sift false as bs ++ sift false bs as)
  | _ => none

/-- What an operator makes of two sets or two dictionaries, if it has a meaning for them. -/
def combineRows? (op : BinaryOp) (a b : Declared) : Option Declared :=
  match a.set?, b.set?, op, a, b with
  | some (f, as), some (_, bs), op, _, _ => (setItems? op as bs).map (.row f)
  | _, _, .or, .row .dict as, .row .dict bs => some (.row .dict (putOver as bs))
  | _, _, _, _, _ => none
where
  /-- Keys and values by turns with those of another dictionary. -/
  putOver (made : List Declared) : List Declared → List Declared
    | k :: v :: more => putOver (putPair k v made) more
    | _ => made

/-- The items of a view of a dictionary that works like a set, and whether they are pairs. -/
def view? : Declared → Option (Bool × List Declared)
  | .row (.view f) ts => if f == "dict_values" then none else some (f == "dict_items", ts)
  | _ => none

/-- The items of a view that are elements of another thing as well. -/
def sharedWith (isPairs : Bool) (ts : List Declared) (other : Declared) :
    Except Fault (List Declared) := do
  let us ← elements other
  let us := if isPairs then us.filter fun u ↦ (u.series?).any fun s ↦ s.1 == .tuple &&
    s.2.length == 2 else us
  us.forM fun u ↦ match isPairs, u.elements? with
    | true, some (k :: _) => k.checkKey
    | _, _ => u.checkKey
  let found := sift true us ts
  found.forM checkKey
  return distinct found

/-- What an operator makes of two things of which one is a view of a dictionary, if it has a meaning
for sets: both are sets of their elements then. -/
def combineViews? (op : BinaryOp) (a b : Declared) : Option (Except Fault Declared) :=
  let isJoined := op == .or && (a.joinsInBrackets || b.joinsInBrackets)
  match op, a.view?, b.view? with
  | _, none, none => none
  | .and, some (isPairs, ts), _ => some do return .row .set (← sharedWith isPairs ts b)
  | .and, none, some (isPairs, ts) => some do return .row .set (← sharedWith isPairs ts a)
  | .or, v, _ => if v.isNone && isJoined then none else some (together a b)
  | .subtract, _, _ | .xor, _, _ => some (together a b)
  | _, _, _ => none
where
  /-- What the operator makes of the elements of two things. -/
  together (a b : Declared) : Except Fault Declared := do
    let as ← elements a
    as.forM checkKey
    let bs ← elements b
    bs.forM checkKey
    return .row .set ((setItems? op (distinct as) (distinct bs)).getD [])

/-- How a mark orders two sets, one of which holds all that the other one does or not. -/
def ordersSets? (c : Comparison) (a b : Declared) : Option Bool := do
  let (_, as) ← a.set?
  let (_, bs) ← b.set?
  let within (xs ys : List Declared) : Bool := (sift false xs ys).isEmpty
  match c with
  | .less => return within as bs && as.length < bs.length
  | .atMost => return within as bs
  | .greater => return within bs as && bs.length < as.length
  | .atLeast => return within bs as
  | _ => none

/-- What an operator between two things makes of them. -/
def combine (op : BinaryOp) (a b : Declared) : Building Declared := do
  if let some x := combineViews? op a b then return ← x
  if let some t := combineRows? op a b then return t
  match op, a, b with
  | .or, a, b => bar a b
  | .add, a, b => join a b
  | .multiply, a, b => times a b
  | .remainder, .constant (.text s), b | .remainder, .constant (.code _ s _), b => do
    return .constant (.text (← (Template.fill s b : Except Fault String)))
  | .remainder, .constant (.bytes bs), b => do
    return .constant (.bytes (← (Template.fillOctets bs b : Except Fault (List UInt8))))
  | op, .constant v, .constant w => combineConstants op v w
  | op, a, b => unsupportedOperands op a b

def applyUnary (op : UnaryOp) (t : Declared) : Except Fault Declared :=
  let refuse : Except Fault Declared :=
    misuse ("bad operand type for unary " ++ op.mark ++ ": '" ++ t.family ++ "'")
  match op, t with
  | .not, t => .ok (.constant (.bool !t.isTrue))
  | op, .constant v => match Value.applyUnary op v with
    | some x => x.map .constant
    | none => refuse
  | _, _ => refuse

/-! ## Comparing -/

/-- Is the thing made anew each time it is written: a list, a class with arguments, a union with
bars? -/
def isFresh : Declared → Bool
  | .constant (.list _) | .applied _ .plain _ | .appliedOther .. | .union .bars _ | .row .. => true
  | _ => false

def isSame (a b : Declared) : Bool := a == b && !a.isFresh

def unordered {α : Type} (mark : String) (a b : Declared) : Except Fault α :=
  misuse ("'" ++ mark ++ "' not supported between instances of '" ++ a.family ++ "' and '" ++
    b.family ++ "'")

mutual

/-- How two things compare in order; rows by their first items that are unlike. -/
def order (mark : String) : Declared → Declared → Except Fault (Option Ordering)
  | .row .tuple as, b => match b.series? with
    | some (.tuple, bs) => orderAll mark as bs
    | _ => unordered mark (.row .tuple as) b
  | .row .list as, b => match b.series? with
    | some (.list, bs) => orderAll mark as bs
    | _ => unordered mark (.row .list as) b
  | .constant v, .constant w => Value.order mark v w
  | .constant v, .row f bs =>
    let form? (t : Declared) : Option RowForm := t.series?.map Prod.fst
    if (form? (.constant v)).isSome && form? (.constant v) == form? (.row f bs) then
      .error (.unsupported mark)
    else unordered mark (.constant v) (.row f bs)
  | a, b => unordered mark a b

def orderAll (mark : String) : List Declared → List Declared → Except Fault (Option Ordering)
  | [], [] => .ok (some .eq)
  | [], _ :: _ => .ok (some .lt)
  | _ :: _, [] => .ok (some .gt)
  | a :: as, b :: bs => if alike a b then orderAll mark as bs else order mark a b

end

def suffixes {α : Type} : List α → List (List α)
  | [] => [[]]
  | x :: xs => (x :: xs) :: suffixes xs

def occurs {α : Type} [BEq α] (xs ys : List α) : Bool := (suffixes ys).any xs.isPrefixOf

/-- A thing as it is looked for in a set: a set as one that cannot change. -/
def asMember : Declared → Declared
  | .row .set ts => .row .frozenset ts
  | t => t

def isInside (a b : Declared) : Except Fault Bool :=
  match b with
  | .row .set ts | .row .frozenset ts => do
    a.asMember.checkKey
    return ts.any fun t ↦ alike t a
  | .row .dict ts => do
    a.checkKey
    return (valueAt? a ts).isSome
  | .constant (.text t) | .constant (.code _ t _) => match a with
    | .constant (.text s) | .constant (.code _ s _) => .ok (occurs s.toList t.toList)
    | a => misuse ("'in <string>' requires string as left operand, not " ++ a.family)
  | .constant (.bytes bs) => match a, a.place? with
    | .constant (.bytes as), _ => .ok (occurs as bs)
    | _, some n =>
      if 0 ≤ n && n < 256 then .ok (bs.any fun b ↦ b.toNat == n.toNat)
      else .error (.badValue "byte must be in range(0, 256)")
    | a, none => misuse ("a bytes-like object is required, not '" ++ a.family ++ "'")
  | .enumeration e => match a with
    | .constant (.symbol family ..) => .ok (family == e.className.name)
    | a =>
      let bare := ((a.family.splitOn ".").getLast?).getD ""
      misuse ("unsupported operand type(s) for 'in': '" ++ bare ++ "' and 'EnumType'")
  | b => match b.elements? with
    | some ts => if ts.any fun t ↦ alike t a then .ok true else b.elements.map fun _ ↦ false
    | none => misuse ("argument of type '" ++ b.family ++ "' is not iterable")

def compares (c : Comparison) (a b : Declared) : Except Fault Bool :=
  let ordered (mark : String) (p : Ordering → Bool) : Except Fault Bool :=
    (order mark a b).map fun o ↦ o.any p
  if let some holds := ordersSets? c a b then .ok holds
  else match c with
  | .equal => .ok (alike a b)
  | .different => .ok !(alike a b)
  | .less => ordered "<" (· == .lt)
  | .atMost => ordered "<=" (· != .gt)
  | .greater => ordered ">" (· == .gt)
  | .atLeast => ordered ">=" (· != .lt)
  | .identical => .ok (isSame a b)
  | .notIdentical => .ok !(isSame a b)
  | .inside => isInside a b
  | .notInside => (isInside a b).map not

end TypedSearch.Declared
