import TypedSearch.Number.Numeral

/-!
# Decimal numbers

Numbers kept the way they are written in base ten: `coefficient · 10 ^ exponent`, where `1.50` and
`1.5` are two forms of one value, together with the infinities and the two sorts of not-a-number.
-/

namespace TypedSearch

open Text

/-- A decimal number. The payload of a not-a-number is zero when it has none. -/
inductive Decimal where
  | finite (negative : Bool) (coefficient : Nat) (exponent : Int)
  | infinite (negative : Bool)
  | nan (negative signaling : Bool) (payload : Nat)
deriving DecidableEq, Repr

namespace Decimal

def maxAdjusted : Int := 999999999999999999

def minExponent : Int := -1999999999999999997

/-- The exponent of the leading digit of `coefficient · 10 ^ exponent`. -/
def adjusted (coefficient : Nat) (exponent : Int) : Int :=
  exponent + (decimalDigits coefficient).length - 1

/-- Does the number lie in the range that decimals are kept in? A zero has no leading digit, so for
it the exponent itself counts. -/
def inRange (coefficient : Nat) (exponent : Int) : Bool :=
  minExponent ≤ exponent &&
    (if coefficient = 0 then exponent else adjusted coefficient exponent) ≤ maxAdjusted

/-! ## Reading -/

/-- The not-a-number whose name is followed by `payload`, which holds digits only. -/
def nan? (negative signaling : Bool) (payload : List Char) : Option Decimal :=
  (digits? payload).map fun ds ↦ .nan negative signaling (ofDigits ds)

/-- The infinities and not-a-numbers, by their names in lower case. -/
def special? (negative : Bool) : List Char → Option Decimal
  | ['i', 'n', 'f'] | ['i', 'n', 'f', 'i', 'n', 'i', 't', 'y'] => some (.infinite negative)
  | 'n' :: 'a' :: 'n' :: payload => nan? negative false payload
  | 's' :: 'n' :: 'a' :: 'n' :: payload => nan? negative true payload
  | _ => none

def ofNumeral (x : Numeral) : Option Decimal :=
  if inRange x.coefficient x.scale then some (.finite x.negative x.coefficient x.scale) else none

/-- Reads a decimal: a numeral, or the name of a special value in any case. Underscores are
ignored wherever they stand. -/
def read (cs : List Char) : Option Decimal :=
  let cs := cs.filter (· != '_')
  match Numeral.read cs with
  | some x => ofNumeral x
  | none =>
    let (negative, cs) := Numeral.takeSign cs
    special? negative (cs.map Char.toLower)

/-! ## Writing -/

def signText (negative : Bool) : List Char := if negative then ['-'] else []

def specialText : Decimal → List Char
  | .finite .. => []
  | .infinite s => signText s ++ "Infinity".toList
  | .nan s signaling payload =>
    signText s ++ (if signaling then ['s'] else []) ++ "NaN".toList ++
      (if payload = 0 then [] else decimalDigits payload)

/-- The digits of a number with a point before the last `places` of them. -/
def pointed (coefficient places : Nat) : List Char :=
  if places = 0 then decimalDigits coefficient
  else
    let ds := padded (places + 1) coefficient
    ds.take (ds.length - places) ++ '.' :: ds.drop (ds.length - places)

/-- The number without a power of ten, in as many digits as that takes. -/
def positional : Decimal → List Char
  | .finite s c e =>
    signText s ++
      if 0 ≤ e then
        if c = 0 then ['0'] else decimalDigits c ++ List.replicate e.toNat '0'
      else pointed c e.natAbs
  | d => specialText d

def powerText (e : Int) : List Char :=
  'E' :: (if e < 0 then '-' else '+') :: decimalDigits e.natAbs

/-- The number as it was written: with a power of ten only if the exponent is positive or the
leading digit stands more than six places behind the point. -/
def scientific : Decimal → List Char
  | .finite s c e =>
    let ds := decimalDigits c
    let lead := adjusted c e
    signText s ++
      if e ≤ 0 ∧ -6 ≤ lead then pointed c e.natAbs
      else pointed c (ds.length - 1) ++ powerText lead
  | d => specialText d

/-! ## Comparing with zero -/

/-- Is the number zero, of either sign and any exponent? -/
def isZero : Decimal → Bool
  | .finite _ c _ => c == 0
  | _ => false

/-- Is the number below zero? Not-a-numbers are not ordered. -/
def isNegative? : Decimal → Option Bool
  | .finite s c _ => some (s && c != 0)
  | .infinite s => some s
  | .nan .. => none

end Decimal

end TypedSearch
