import TypedSearch.Number.Numeral

/-!
# Whole numbers

Reading and writing integers. Neither direction handles more than `Whole.maxDigits` digits, so that
the work stays bounded whatever the text.
-/

namespace TypedSearch.Whole

open Text

/-- The largest number of digits that is read or written. -/
def maxDigits : Nat := 4300

/-- Reads an integer: a sign and digits, which single underscores may group. -/
def read (cs : List Char) : Option Int := do
  let cs ← Numeral.ungroup cs
  let (negative, ds) ← Numeral.signedDigits? cs
  if ds.length ≤ maxDigits then some (Numeral.signed negative (ofDigits ds)) else none

def readPadded (s : String) : Option Int := read (Numeral.unpad s.toList)

/-- The digits of an integer, with a sign if it is negative. -/
def write : Int → List Char
  | .ofNat n => decimalDigits n
  | .negSucc n => '-' :: decimalDigits (n + 1)

def Writable (n : Int) : Prop := (decimalDigits n.natAbs).length ≤ maxDigits

instance (n : Int) : Decidable (Writable n) := inferInstanceAs (Decidable (_ ≤ _))

end TypedSearch.Whole
