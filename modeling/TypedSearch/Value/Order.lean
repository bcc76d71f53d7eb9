import TypedSearch.Fault
import TypedSearch.Value.Basic

/-!
# Values and zero

How a value stands to zero, and which values count as nothing at all.
-/

namespace TypedSearch.Value

/-- How a value compares with zero; `none` for a not-a-number, which compares with nothing. Values
that are no numbers have no place in the order. -/
def compareZero : Value → Except Fault (Option Ordering)
  | .bool b => .ok (some (if b then .gt else .eq))
  | .int n => .ok (some (compare n 0))
  | .float .nan => .ok none
  | .float x => .ok (some (if x.isZero then .eq else if x.isNegative then .lt else .gt))
  | .decimal d =>
    match d.isNegative? with
    | none => .error .undefinedOperation
    | some negative => .ok (some (if d.isZero then .eq else if negative then .lt else .gt))
  | .ratio q => .ok (some (compare q.num 0))
  | .symbol _ _ (.int n) true => .ok (some (compare n 0))
  | _ => .error (.wrongType "values are not ordered")

def isNegative (v : Value) : Except Fault Bool :=
  v.compareZero.map (· == some .lt)

def isNonPositive (v : Value) : Except Fault Bool :=
  v.compareZero.map fun o ↦ o == some .lt || o == some .eq

/-- Does the value equal the number zero? A signaling not-a-number refuses even that question. -/
def isZero : Value → Except Fault Bool
  | .bool b => .ok !b
  | .int n => .ok (n == 0)
  | .float x => .ok x.isZero
  | .complex z => .ok (z.re.isZero && z.im.isZero)
  | .decimal (.nan _ true _) => .error .undefinedOperation
  | .decimal d => .ok d.isZero
  | .ratio q => .ok (q.num == 0)
  | .symbol _ _ (.int n) true => .ok (n == 0)
  | _ => .ok false

def isEmptyText : Value → Bool
  | .text s | .code _ s _ => s.isEmpty
  | _ => false

def length? : Value → Option Nat
  | .text s | .code _ s _ => some s.length
  | .bytes bs => some bs.length
  | .list xs | .tuple xs => some xs.length
  | _ => none

/-- The items of a value that has items: the characters of a text, the octets of a row of them. -/
def items? : Value → Option (List Value)
  | .text s | .code _ s _ => some (s.toList.map fun c ↦ .text (.singleton c))
  | .bytes bs => some (bs.map fun b ↦ .int b.toNat)
  | .list xs | .tuple xs => some xs
  | _ => none

/-- Does the value count as true? Zeros, empty values and `null` do not. -/
def isTrue : Value → Bool
  | .null => false
  | .bool b => b
  | .int n => n != 0
  | .float x => !x.isZero
  | .complex z => !(z.re.isZero && z.im.isZero)
  | .decimal d => !d.isZero
  | .text s | .code _ s _ => !s.isEmpty
  | .bytes bs => !bs.isEmpty
  | .ratio q => q.num != 0
  | .symbol _ _ (.int n) true => n != 0
  | .list xs | .tuple xs => !xs.isEmpty
  | _ => true

end TypedSearch.Value
