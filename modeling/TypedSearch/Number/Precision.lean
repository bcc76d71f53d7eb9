import TypedSearch.Number.Binary64
import TypedSearch.Number.Decimal

/-!
# Decimal arithmetic

Operations on decimal numbers keep `precision` digits; what has more is rounded, a tie to the even
digit. A result that is exact keeps the exponent that the operands suggest.
-/

namespace TypedSearch.Decimal

open Text

def precision : Nat := 28

def size (n : Nat) : Nat := (decimalDigits n).length

def rounded (negative : Bool) (coefficient : Nat) (exponent : Int) : Decimal :=
  let more := size coefficient - precision
  if more = 0 then .finite negative coefficient exponent
  else
    let n := Binary64.roundDiv coefficient (tenTo more)
    if n = tenTo precision then .finite negative (n / 10) (exponent + more + 1)
    else .finite negative n (exponent + more)

/-- The sum of two numbers whose exponents are not far apart. -/
def sum? (s : Bool) (m : Nat) (e : Int) (t : Bool) (n : Nat) (f : Int) : Option Decimal :=
  let low := min e f
  if 4000 < (e - low) + (f - low) then none
  else
    let a := Numeral.signed s (m * tenTo (e - low).toNat) +
      Numeral.signed t (n * tenTo (f - low).toNat)
    some (rounded (if a = 0 then s && t else a < 0) a.natAbs low)

/-- The coefficient without zeros at its end, as long as the exponent stays below a wanted one. -/
def trimmed (wanted : Int) : Nat → Nat → Int → Nat × Int
  | 0, n, e => (n, e)
  | fuel + 1, n, e =>
    if e < wanted && n % 10 = 0 then trimmed wanted fuel (n / 10) (e + 1) else (n, e)

def quotient (s : Bool) (m : Nat) (e : Int) (t : Bool) (n : Nat) (f : Int) : Decimal :=
  if m = 0 then .finite (s != t) 0 (e - f)
  else
    let shift : Int := (size n : Int) - size m + precision + 1
    let (num, den) := if 0 ≤ shift then (m * tenTo shift.toNat, n) else (m, n * tenTo shift.natAbs)
    let q := num / den
    if num % den = 0 then
      let (q, e) := trimmed (e - f) (size q) q (e - f - shift)
      rounded (s != t) q e
    else rounded (s != t) (if q % 5 = 0 then q + 1 else q) (e - f - shift)

/-- The whole part of a quotient by a number other than zero, and what is left; none if the whole
part has more digits than are kept. -/
def divided? (s : Bool) (m : Nat) (e : Int) (t : Bool) (n : Nat) (f : Int) :
    Option (Decimal × Decimal) :=
  let low := min e f
  let apart := adjusted m e - adjusted n f
  if m = 0 || apart ≤ -2 then some (.finite (s != t) 0 0, rounded s (m * tenTo (e - low).toNat) low)
  else if precision < apart then none
  else
    let a := m * tenTo (e - low).toNat
    let b := n * tenTo (f - low).toNat
    if tenTo precision ≤ a / b then none
    else some (.finite (s != t) (a / b) 0, rounded s (a % b) low)

/-- A decimal with the value of a finite binary number, which always has one. -/
def ofBinary (negative : Bool) (m : Nat) (e : Int) : Decimal :=
  if 0 ≤ e then .finite negative (m * twoTo e.toNat) 0
  else
    let (n, k) := halved e.natAbs m e.natAbs
    .finite negative (n * Nat.pow 5 k) (-k)
where
  /-- A numerator over a power of two in lowest terms. -/
  halved : Nat → Nat → Nat → Nat × Nat
    | 0, n, k => (n, k)
    | fuel + 1, n, k =>
      if n = 0 then (0, 0) else if k != 0 && n % 2 = 0 then halved fuel (n / 2) (k - 1) else (n, k)

example : (quotient false 1 0 false 8 0) = .finite false 125 (-3) ∧
    (quotient false 2 0 false 3 0) = .finite false 6666666666666666666666666667 (-28) ∧
    ofBinary false 6755399441055744 (-52) = .finite false 15 (-1) := by decide +kernel

end TypedSearch.Decimal
