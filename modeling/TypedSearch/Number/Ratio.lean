import TypedSearch.Number.Numeral
import TypedSearch.Number.Power
import TypedSearch.Number.Whole

/-!
# Ratios

Reading and writing exact fractions: a quotient of two whole numbers, or a numeral.
-/

namespace TypedSearch.Ratio

open Text

/-- Why a text is no ratio. -/
inductive Failure where
  | malformed
  | zeroDenominator
deriving DecidableEq, Repr

/-- Is the row of digits short enough to be read as a whole number? -/
def fits (ds : List Nat) : Bool := ds.length ≤ Whole.maxDigits

/-- The ratio of two numbers written as rows of digits. -/
def ofQuotient (negative : Bool) (num den : List Nat) : Except Failure Rat :=
  if !(fits num && fits den) then .error .malformed
  else if ofDigits den = 0 then .error .zeroDenominator
  else .ok (mkRat (Numeral.signed negative (ofDigits num)) (ofDigits den))

def ofNumeral (x : Numeral) : Except Failure Rat :=
  if !(fits x.whole && fits x.fraction) then .error .malformed
  else
    let n := Numeral.signed x.negative x.coefficient
    let e := x.scale
    .ok (if 0 ≤ e then mkRat (n * tenTo e.toNat) 1 else mkRat n (tenTo e.natAbs))

/-- Reads a ratio; white space may stand around it and single underscores may group its digits. -/
def read (cs : List Char) : Except Failure Rat :=
  match Numeral.ungroup (trim cs) with
  | none => .error .malformed
  | some cs =>
    let (negative, cs) := Numeral.takeSign cs
    match Numeral.takeDigits cs with
    | (n :: ns, '/' :: den) =>
      match Numeral.takeDigits den with
      | (d :: ds, []) => ofQuotient negative (n :: ns) (d :: ds)
      | _ => .error .malformed
    | _ =>
      match Numeral.unsigned? negative cs with
      | none => .error .malformed
      | some x => ofNumeral x

/-- The text of a ratio: a quotient, or a whole number when the denominator is one. -/
def write (q : Rat) : List Char :=
  if q.den = 1 then Whole.write q.num else Whole.write q.num ++ '/' :: decimalDigits q.den

/-- A ratio whose two numbers are short enough to be written. -/
def Writable (q : Rat) : Prop :=
  Whole.Writable q.num ∧ (q.den = 1 ∨ Whole.Writable q.den)

instance (q : Rat) : Decidable (Writable q) := inferInstanceAs (Decidable (_ ∧ _))

end TypedSearch.Ratio
