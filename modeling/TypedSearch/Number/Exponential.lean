import TypedSearch.Number.Quotient

/-!
# Powers of binary numbers

A power of a binary number is rounded from its exact value where the exponent is a small whole
number. Any other comes from a logarithm and an exponential, which are sums of series over whole
numbers with `places` bits behind the point: more than enough for the nearest binary number.
-/

namespace TypedSearch

namespace Exponential

def places : Nat := 320

def one : Int := twoTo places

/-- The product of two numbers with bits behind the point. -/
def times (x y : Int) : Int := (x * y).fdiv one

/-- The sum of the odd powers of a number from one on, each divided by its exponent; `power` is the
next of them and `square` the square of the number. -/
def oddSeries (square : Int) : Nat → Int → Int → Int
  | 0, _, _ => 0
  | fuel + 1, power, n =>
    if power = 0 then 0 else power.fdiv n + oddSeries square fuel (times power square) (n + 2)

/-- Twice the sum of the odd powers of a ratio that is at most a third: the logarithm of the
quotient of what lies above and below one by that ratio. -/
def logarithmBy (num den : Int) : Int :=
  let z := (num * one).fdiv den
  2 * oddSeries (times z z) (places + 1) z 1

def logarithmOfTwo : Int := logarithmBy 1 3

/-- The logarithm of `m · 2 ^ e` for a positive `m`. -/
def logarithm (m : Nat) (e : Int) : Int :=
  let k := Nat.log2 m
  let x : Int := if k ≤ places then m * twoTo (places - k) else m / twoTo (k - places)
  (e + k) * logarithmOfTwo + logarithmBy (x - one) (x + one)

/-- The sum of the powers of a number, each divided by the product of the whole numbers up to its
exponent; `term` is the next of them. -/
def exponentialSeries (x : Int) : Nat → Int → Int → Int
  | 0, _, _ => 0
  | fuel + 1, term, n =>
    if term = 0 then 0 else term + exponentialSeries x fuel ((times term x).fdiv n) (n + 1)

/-- The binary number nearest to the exponential of a number with bits behind the point. -/
def exponential (y : Int) : Binary64 :=
  let k := y.fdiv logarithmOfTwo
  if 2000 < k then .infinite false
  else if k < -2000 then .zero false
  else
    let n := exponentialSeries (y - k * logarithmOfTwo) (places + 1) one 1
    .ofScaled false n (k - places)

end Exponential

namespace Binary64

/-- The number nearest to the root of the sum of the squares of two numbers. -/
def hypotenuse : Binary64 → Binary64 → Binary64
  | .finite _ m e, .finite _ n f =>
    let low := min e f
    let square := Nat.pow (m * twoTo (e - low).toNat) 2 + Nat.pow (n * twoTo (f - low).toNat) 2
    if square = 0 then zero false
    else Exponential.exponential ((Exponential.logarithm square (2 * low)).fdiv 2)
  | .infinite _, _ | _, .infinite _ => .infinite false
  | _, _ => .nan

/-- What a power of a binary number comes to. -/
inductive Power where
  | number (x : Binary64)
  /-- A negative power of zero. -/
  | pole
  | tooLarge
  /-- A broken power of a negative number. -/
  | notReal
deriving DecidableEq, Repr

def whole? : Binary64 → Option Int
  | .finite s m e =>
    if 0 ≤ e then some (Numeral.signed s (m * twoTo e.toNat))
    else if m % twoTo e.natAbs = 0 then some (Numeral.signed s (m / twoTo e.natAbs))
    else none
  | _ => none

def positivePower (m : Nat) (e : Int) (y : Binary64) : Binary64 :=
  match y.whole?, y with
  | some n, .finite s k f =>
    if n.natAbs ≤ 1024 then
      let p := Nat.pow m n.natAbs
      let e := e * n.natAbs
      let (num, den) := if 0 ≤ e then (p * twoTo e.toNat, 1) else (p, twoTo e.natAbs)
      if 0 ≤ n then ofFraction false num den else ofFraction false den num
    else broken s k f
  | _, .finite s k f => broken s k f
  | _, y => y
where
  /-- The power by a logarithm. -/
  broken (s : Bool) (k : Nat) (f : Int) : Binary64 :=
    let n := Exponential.logarithm m e * Numeral.signed s k
    Exponential.exponential (if 0 ≤ f then n * twoTo f.toNat else n.fdiv (twoTo f.natAbs))

def power (x y : Binary64) : Power :=
  let one := ofWhole 1
  let isOdd := (y.whole?).any fun n ↦ n % 2 != 0
  if y.isZero then .number one
  else match x, y with
    | .nan, _ => .number .nan
    | x, .nan => .number (if x == one then one else .nan)
    | x, .infinite s =>
      let size := x.magnitude
      if size == one then .number one
      else .number (if s == size.isBelow one then .infinite false else .zero false)
    | .infinite s, y => .number <|
      if y.isNegative then zero (s && isOdd) else .infinite (s && isOdd)
    | .finite s m e, y =>
      if m = 0 then if y.isNegative then .pole else .number (zero (s && isOdd))
      else if s && (y.whole?).isNone then .notReal
      else
        let p := if (Binary64.finite false m e) == one then one else positivePower m e y
        match if s && isOdd then p.neg else p with
        | .infinite _ => .tooLarge
        | p => .number p

example : power (ofWhole 2) (ofFraction false 1 2) =
    .number (ofFraction false 14142135623730951 (tenTo 16)) := by decide +kernel

end Binary64

end TypedSearch
