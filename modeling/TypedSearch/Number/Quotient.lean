import TypedSearch.Number.Arithmetic
import TypedSearch.Number.Complex

/-!
# Quotients and remainders

The quotient of binary numbers toward the least, with the remainder that goes with it; and quotients
and whole powers of complex numbers.
-/

namespace TypedSearch

namespace Binary64

/-- What is left of a number behind whole multiples of another one; it has the sign of the first. -/
def leftOver : Binary64 → Binary64 → Binary64
  | .finite s m e, .finite _ n f =>
    if n = 0 then .nan
    else
      let low := min e f
      ofScaled s (Numeral.signed s ((m * twoTo (e - low).toNat) % (n * twoTo (f - low).toNat))) low
  | .finite s m e, .infinite _ => .finite s m e
  | _, _ => .nan

/-- Is the number neither zero nor a not-a-number, with a sign unlike that of the other one? -/
def isOpposite (x y : Binary64) : Bool := !x.isZero && x != .nan && x.isNegative != y.isNegative

/-- The remainder of two numbers, which has the sign of the second. -/
def remainder (x y : Binary64) : Binary64 :=
  let r := leftOver x y
  if r.isZero then zero y.isNegative else if isOpposite r y then r.add y else r

/-- The greatest whole number that is not above a number. -/
def floor : Binary64 → Binary64
  | .finite s m e =>
    if 0 ≤ e then .finite s m e
    else ofScaled s ((Numeral.signed s m).fdiv (twoTo e.natAbs)) 0
  | x => x

/-- Is a number closer to the whole number above it than to the one below? -/
def isNearNext : Binary64 → Bool
  | .finite s m e =>
    e < 0 && twoTo e.natAbs < 2 * ((Numeral.signed s m).fmod (twoTo e.natAbs)).toNat
  | _ => false

/-- The quotient of two numbers, down to a whole number. -/
def floorQuotient (x y : Binary64) : Binary64 :=
  let r := leftOver x y
  let q := (x.sub r).div y
  let q := if isOpposite r y then q.sub (ofWhole 1) else q
  if q.isZero then zero (x.hasMinus != y.hasMinus)
  else if isNearNext q then q.floor.add (ofWhole 1) else q.floor

def magnitude (x : Binary64) : Binary64 := if x.hasMinus then x.neg else x

/-- Is a number below another one? Nothing is below a not-a-number. -/
def isBelow (x y : Binary64) : Bool :=
  match x.sub y with
  | .nan => false
  | z => z.isNegative && !z.isZero

example : (floorQuotient (ofWhole (-7)) (ofWhole 2)).write = "-4.0".toList ∧
    (remainder (ofWhole (-7)) (ofWhole 2)).write = "1.0".toList := by decide +kernel

end Binary64

namespace Complex

def one : Complex := ⟨.ofWhole 1, .zero false⟩

def mul (y z : Complex) : Complex :=
  ⟨(y.re.mul z.re).sub (y.im.mul z.im), (y.re.mul z.im).add (y.im.mul z.re)⟩

/-- The quotient, unless the second number is zero. The larger part of the second number is divided
by. -/
def quotient? (y z : Complex) : Option Complex :=
  if z.re.isZero && z.im.isZero then none
  else if z.re == .nan || z.im == .nan then some ⟨.nan, .nan⟩
  else if !z.re.magnitude.isBelow z.im.magnitude then
    let ratio := z.im.div z.re
    let denominator := z.re.add (z.im.mul ratio)
    some ⟨(y.re.add (y.im.mul ratio)).div denominator, (y.im.sub (y.re.mul ratio)).div denominator⟩
  else
    let ratio := z.re.div z.im
    let denominator := (z.re.mul ratio).add z.im
    some ⟨((y.re.mul ratio).add y.im).div denominator, ((y.im.mul ratio).sub y.re).div denominator⟩

/-- A whole power by repeated squaring, the lowest bit of the exponent first; `made` is what the
lower bits come to. -/
def powerFrom (made z : Complex) : Nat → Nat → Complex
  | 0, _ => made
  | fuel + 1, n =>
    if n = 0 then made
    else powerFrom (if n % 2 = 1 then made.mul z else made) (z.mul z) fuel (n / 2)

/-- A whole power, unless it is a negative one of zero. -/
def wholePower? (z : Complex) (n : Int) : Option Complex :=
  let p := powerFrom one z (n.natAbs + 1) n.natAbs
  if 0 ≤ n then some p else one.quotient? p

end Complex

end TypedSearch
