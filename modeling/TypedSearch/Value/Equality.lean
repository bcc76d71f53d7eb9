import TypedSearch.Value.Basic

/-!
# Equality of what values stand for

Two values that differ as data may stand for the same: numbers of different classes are compared by
their exact magnitude, texts by their characters whatever their class, and moments by the time they
name. A not-a-number equals nothing.
-/

namespace TypedSearch

/-- The exact magnitude of a number: `num / den · 10 ^ exponent`, where `num` is no multiple of ten
and `den` has no factor in common with ten. -/
inductive Magnitude where
  | finite (num : Int) (den : Nat) (exponent : Int)
  | infinite (negative : Bool)
deriving DecidableEq, Repr

namespace Magnitude

/-- The number `n · 10 ^ e` over `den`, with the factors of ten of `n` moved to the exponent. -/
def stripTens (den : Nat) : Nat → Int → Int → Magnitude
  | 0, n, e => .finite n den e
  | fuel + 1, n, e => if n % 10 = 0 then stripTens den fuel (n / 10) (e + 1) else .finite n den e

/-- The magnitude of `n · 10 ^ e` over `den`. -/
def ofScaled (den : Nat) (n e : Int) : Magnitude :=
  if n = 0 then .finite 0 1 0 else stripTens den (Nat.log2 n.natAbs + 1) n e

/-- How often a factor divides a number, and the number without it. -/
def takeFactor (p : Nat) : Nat → Nat → Nat × Nat
  | 0, n => (0, n)
  | fuel + 1, n =>
    if n % p = 0 then let (k, n) := takeFactor p fuel (n / p); (k + 1, n) else (0, n)

def ofRatio (q : Rat) : Magnitude :=
  let fuel := Nat.log2 q.den + 1
  let (twos, den) := takeFactor 2 fuel q.den
  let (fives, den) := takeFactor 5 fuel den
  let m := max twos fives
  ofScaled den (q.num * twoTo (m - twos) * Nat.pow 5 (m - fives)) (-m)

/-- The magnitude of a binary number, unless it is none. -/
def ofBinary? : Binary64 → Option Magnitude
  | .finite s m e =>
    let n := Numeral.signed s m
    some (if 0 ≤ e then ofRatio (mkRat (n * twoTo e.toNat) 1)
      else ofRatio (mkRat n (twoTo e.natAbs)))
  | .infinite s => some (.infinite s)
  | .nan => none

/-- The magnitude of a decimal number, unless it is none. -/
def ofDecimal? : Decimal → Option Magnitude
  | .finite s c e => some (ofScaled 1 (Numeral.signed s c) e)
  | .infinite s => some (.infinite s)
  | .nan .. => none

end Magnitude

/-- Do two moments name the same time? One whose clock is unknown differs from one whose clock is
not. -/
def Moment.equals (m n : Moment) : Bool :=
  match m.offset, n.offset with
  | none, none => m == n
  | some o, some p => m == n || ((m.toUtc? o).isSome && m.toUtc? o == n.toUtc? p)
  | _, _ => false

namespace Value

def isNumber : Value → Bool
  | .bool _ | .int _ | .float _ | .complex _ | .decimal _ | .ratio _ => true
  | .symbol _ _ _ whole => whole
  | _ => false

def magnitude? : Value → Option Magnitude
  | .bool b => some (Magnitude.ofScaled 1 (if b then 1 else 0) 0)
  | .int n | .symbol _ _ (.int n) true => some (Magnitude.ofScaled 1 n 0)
  | .float x => Magnitude.ofBinary? x
  | .complex z => if z.im.isZero then Magnitude.ofBinary? z.re else none
  | .decimal d => Magnitude.ofDecimal? d
  | .ratio q => some (Magnitude.ofRatio q)
  | _ => none

def text? : Value → Option String
  | .text s | .code _ s _ => some s
  | _ => none

mutual

def equals : Value → Value → Bool
  | .list xs, .list ys => allEqual xs ys
  | .tuple xs, .tuple ys => allEqual xs ys
  | .moment m, .moment n => m.equals n
  | .complex y, .complex z =>
    (Magnitude.ofBinary? y.re).any (some · == Magnitude.ofBinary? z.re) &&
      (Magnitude.ofBinary? y.im).any (some · == Magnitude.ofBinary? z.im)
  | a, b =>
    if a.isNumber && b.isNumber then a.magnitude?.any (some · == b.magnitude?)
    else match a.text?, b.text? with
      | some s, some t => s == t
      | none, none => a == b
      | _, _ => false

/-- Do the values of two rows stand for the same, each to its own? -/
def allEqual : List Value → List Value → Bool
  | [], [] => true
  | x :: xs, y :: ys => equals x y && allEqual xs ys
  | _, _ => false

end

example :
    equals (.int 1) (.bool true) ∧ equals (.decimal (.finite false 150 (-2))) (.ratio (3 / 2)) ∧
    equals (.text "a") (.code "Code" "a" "a") ∧ ¬ equals (.int 1) (.text "1") ∧
    ¬ equals (.float .nan) (.float .nan) := by decide +kernel

end Value

end TypedSearch
