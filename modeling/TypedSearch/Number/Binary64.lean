import TypedSearch.Number.Numeral
import TypedSearch.Number.Power

/-!
# Binary floating point

Binary numbers of 53 bits with an eleven-bit exponent, kept exactly: reading rounds a numeral to the
nearest of them, ties to the even one, and writing finds the fewest digits that read back.
-/

namespace TypedSearch

open Text

/-- A binary floating-point number; a finite one has the value `mantissa · 2 ^ exponent`, with the
least exponent that leaves the mantissa below `2 ^ 53`. -/
inductive Binary64 where
  | finite (negative : Bool) (mantissa : Nat) (exponent : Int)
  | infinite (negative : Bool)
  | nan
deriving DecidableEq, Repr

namespace Binary64

/-- The exponent of the numbers nearest zero. -/
def minExponent : Int := -1074

def maxExponent : Int := 971

def zero (negative : Bool) : Binary64 := .finite negative 0 minExponent

/-! ## Rounding -/

/-- The quotient rounded to the nearest whole number, a tie to the even one. -/
def roundDiv (num den : Nat) : Nat :=
  let q := num / den
  let r := num % den
  if 2 * r < den then q
  else if 2 * r = den then (if q % 2 = 0 then q else q + 1)
  else q + 1

/-- The fraction `num / (den · 2 ^ e)` as a numerator and a denominator. -/
def scaleDown (num den : Nat) (e : Int) : Nat × Nat :=
  if 0 ≤ e then (num, den * twoTo e.toNat) else (num * twoTo e.natAbs, den)

/-- The exponent at which the positive fraction `num / den` has 53 bits before the point, or the
least exponent if that is larger. -/
def exponentFor (num den : Nat) : Int :=
  let e := (num.log2 : Int) - den.log2 - 52
  let (n, d) := scaleDown num den e
  let e := if n / d < twoTo 52 then e - 1 else e
  max e minExponent

/-- The number nearest to a positive fraction. -/
def ofFraction (negative : Bool) (num den : Nat) : Binary64 :=
  let e := exponentFor num den
  let (n, d) := scaleDown num den e
  let m := roundDiv n d
  let (m, e) := if m = twoTo 53 then (twoTo 52, e + 1) else (m, e)
  if maxExponent < e then .infinite negative else .finite negative m e

/-- The number nearest to a numeral. Powers of ten far outside the range are settled by the place
of the leading digit. -/
def ofNumeral (x : Numeral) : Binary64 :=
  let c := x.coefficient
  let e := x.scale
  if c = 0 then zero x.negative
  else
    let lead := e + (decimalDigits c).length
    if 310 < lead then .infinite x.negative
    else if lead < -330 then zero x.negative
    else if 0 ≤ e then ofFraction x.negative (c * tenTo e.toNat) 1
    else ofFraction x.negative c (tenTo e.natAbs)

/-- The infinities and the not-a-number, by their names in lower case. -/
def special? (negative : Bool) : List Char → Option Binary64
  | ['i', 'n', 'f'] | ['i', 'n', 'f', 'i', 'n', 'i', 't', 'y'] => some (.infinite negative)
  | ['n', 'a', 'n'] => some .nan
  | _ => none

/-- Reads a number: a numeral whose digits single underscores may group, or the name of a special
value in any case. -/
def read (cs : List Char) : Option Binary64 := do
  let cs ← Numeral.ungroup cs
  match Numeral.read cs with
  | some x => some (ofNumeral x)
  | none =>
    let (negative, cs) := Numeral.takeSign cs
    special? negative (cs.map Char.toLower)

def readPadded (s : String) : Option Binary64 := read (Numeral.unpad s.toList)

/-! ## Shortest digits -/

structure Fraction where
  num : Nat
  den : Nat

/-- The fraction `m · 2 ^ e`. -/
def Fraction.ofBinary (m : Nat) (e : Int) : Fraction :=
  if 0 ≤ e then ⟨m * twoTo e.toNat, 1⟩ else ⟨m, twoTo e.natAbs⟩

/-- The fraction divided by `10 ^ k`. -/
def Fraction.shift (x : Fraction) (k : Int) : Fraction :=
  if 0 ≤ k then ⟨x.num, x.den * tenTo k.toNat⟩ else ⟨x.num * tenTo k.natAbs, x.den⟩

/-- The number of zeros between the point and the first digit of a fraction below one. -/
def leadingZeros (x : Fraction) : Nat → Nat → Nat
  | 0, k => k
  | fuel + 1, k => if x.den ≤ x.num * tenTo (k + 1) then k else leadingZeros x fuel (k + 1)

/-- The place of the point relative to the first digit: the `p` with `10 ^ (p - 1) ≤ x < 10 ^ p`. -/
def pointOf (x : Fraction) : Int :=
  if x.den ≤ x.num then (decimalDigits (x.num / x.den)).length else -(leadingZeros x 400 0 : Int)

/-- The numbers that round to one binary number: everything between the halfway points to its two
neighbours, the ends included if its mantissa is even. -/
structure Cell where
  low : Fraction
  high : Fraction
  closed : Bool

/-- The cell of `m · 2 ^ e`; below a power of two the neighbour is half as far away. -/
def cell (m : Nat) (e : Int) : Cell :=
  let low := if m = twoTo 52 ∧ minExponent < e then Fraction.ofBinary (4 * m - 1) (e - 2)
    else Fraction.ofBinary (2 * m - 1) (e - 1)
  ⟨low, .ofBinary (2 * m + 1) (e - 1), m % 2 == 0⟩

/-- Does the cell, measured in units of `10 ^ k`, hold the whole number `n`? -/
def Cell.holds (x : Cell) (k : Int) (n : Nat) : Bool :=
  let low := x.low.shift k
  let high := x.high.shift k
  if x.closed then low.num ≤ n * low.den && n * high.den ≤ high.num
  else low.num < n * low.den && n * high.den < high.num

/-- The shortest digits among grids of `n` digits and finer ones, as a whole number and its power of
ten; on one grid the nearer of two neighbours wins, and the even one of two equally near. -/
def shortestFrom (x : Fraction) (c : Cell) (point : Int) : Nat → Nat → Nat × Int
  | 0, n => let k := point - n; let y := x.shift k; (roundDiv y.num y.den, k)
  | fuel + 1, n =>
    let k := point - n
    let y := x.shift k
    let below := y.num / y.den
    let nearest := roundDiv y.num y.den
    let other := if nearest = below then below + 1 else below
    if nearest != 0 && c.holds k nearest then (nearest, k)
    else if other != 0 && c.holds k other then (other, k)
    else shortestFrom x c point fuel (n + 1)

/-- The fewest digits that read back as `m · 2 ^ e`, and the place of the point relative to the
first of them. -/
def shortest (m : Nat) (e : Int) : List Char × Int :=
  let x := Fraction.ofBinary m e
  let (n, k) := shortestFrom x (cell m e) (pointOf x) 17 1
  let ds := decimalDigits n
  let short := stripEnd (· == '0') ds
  (short, k + ds.length)

/-! ## Layout -/

/-- How a number is laid out: the places of the point between which no power of ten is written, and
the least number of digits of a power. -/
structure Layout where
  least : Int
  greatest : Int
  powerWidth : Nat

/-- Numbers from `0.0001` up to sixteen digits are written without a power of ten; a power has two
digits at least. -/
def layout : Layout := ⟨-3, 16, 2⟩

def Layout.power (l : Layout) (e : Int) : List Char :=
  'e' :: (if e < 0 then '-' else '+') :: padded l.powerWidth e.natAbs

/-- Digits with the point at a place; a whole number keeps one zero behind the point. -/
def Layout.place (l : Layout) (ds : List Char) (point : Int) : List Char :=
  if l.least ≤ point ∧ point ≤ l.greatest then
    if point ≤ 0 then '0' :: '.' :: (List.replicate point.natAbs '0' ++ ds)
    else
      let whole := ds.take point.toNat
      let rest := ds.drop point.toNat
      whole ++ List.replicate (point.toNat - whole.length) '0' ++
        '.' :: (if rest.isEmpty then ['0'] else rest)
  else
    let mantissa := match ds with
      | d :: r :: rs => d :: '.' :: r :: rs
      | ds => ds
    mantissa ++ l.power (point - 1)

def write : Binary64 → List Char
  | .finite s m e =>
    (if s then ['-'] else []) ++
      if m = 0 then "0.0".toList
      else let (ds, point) := shortest m e; layout.place ds point
  | .infinite s => (if s then ['-'] else []) ++ "inf".toList
  | .nan => "nan".toList

/-- The text of a number in base sixteen, with a power of two behind it. -/
def writeHex : Binary64 → List Char
  | .finite s m e =>
    let power : Int := if m = 0 then 0 else e + 52
    (if s then ['-'] else []) ++ '0' :: 'x' :: (decimalDigits (m / twoTo 52)) ++
      '.' :: (if m = 0 then ['0']
        else let ds := Nat.toDigits 16 (m % twoTo 52); List.replicate (13 - ds.length) '0' ++ ds) ++
      'p' :: (if power < 0 then '-' else '+') :: decimalDigits power.natAbs
  | x => x.write

/-! ## Comparing with zero -/

def isZero : Binary64 → Bool
  | .finite _ m _ => m == 0
  | _ => false

def isNegative : Binary64 → Bool
  | .finite s m _ => s && m != 0
  | .infinite s => s
  | .nan => false

/-- Does the number stand behind a minus, as a zero may do as well? -/
def hasMinus : Binary64 → Bool
  | .finite s _ _ => s
  | .infinite s => s
  | .nan => false

end Binary64

end TypedSearch
