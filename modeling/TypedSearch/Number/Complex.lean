import TypedSearch.Number.Binary64

/-!
# Complex numbers

Numbers of two parts, and how they are written: the second part is marked by a `j`, and a number
that has both stands in parentheses.
-/

namespace TypedSearch

open Text

structure Complex where
  re : Binary64
  im : Binary64
deriving DecidableEq, Repr

namespace Complex

/-! ## Writing -/

/-- The text of a part; a whole number needs no point. -/
def writePart (x : Binary64) : List Char :=
  match x.write.reverse with
  | '0' :: '.' :: ds => ds.reverse
  | ds => ds.reverse

def signedPart (x : Binary64) : List Char :=
  match writePart x with
  | '-' :: ds => '-' :: ds
  | ds => '+' :: ds

def write (z : Complex) : List Char :=
  if z.re = .zero false then writePart z.im ++ ['j']
  else '(' :: (writePart z.re ++ signedPart z.im ++ ['j', ')'])

/-! ## Reading -/

/-- The number of characters of the longest numeral without a sign at the start of a text. -/
def numeralLength (cs : List Char) : Nat :=
  let isDigitChar (c : Char) := c.isDigit
  let whole := (cs.takeWhile isDigitChar).length
  let rest := cs.drop whole
  let point := match rest with
    | '.' :: ds =>
      let fraction := (ds.takeWhile isDigitChar).length
      if whole = 0 && fraction = 0 then 0 else fraction + 1
    | _ => 0
  if whole + point = 0 then 0
  else
    let power := match rest.drop point with
      | 'e' :: s :: ds | 'E' :: s :: ds =>
        if s == '+' || s == '-' then
          let digits := (ds.takeWhile isDigitChar).length
          if digits = 0 then 0 else digits + 2
        else
          let digits := ((s :: ds).takeWhile isDigitChar).length
          if digits = 0 then 0 else digits + 1
      | _ => 0
    whole + point + power

/-- The number of characters of the name of a special value at the start of a text. -/
def specialLength (cs : List Char) : Nat :=
  let low := (cs.take 8).map Char.toLower
  if low == "infinity".toList then 8
  else if low.take 3 == "inf".toList || low.take 3 == "nan".toList then 3
  else 0

def takePart (cs : List Char) : Option (Binary64 × List Char) :=
  let unsigned := (Numeral.takeSign cs).2
  let n := if numeralLength unsigned = 0 then specialLength unsigned else numeralLength unsigned
  if n = 0 then none
  else
    let n := n + (cs.length - unsigned.length)
    (Binary64.read (cs.take n)).map fun x ↦ (x, cs.drop n)

def unit (negative : Bool) : Binary64 := .ofFraction negative 1 1

/-- Takes the mark of the second part, which stands for one if there is no number before it. -/
def takeImaginary (cs : List Char) : Option (Binary64 × List Char) :=
  let (x, rest) := match takePart cs with
    | some p => p
    | none => let (negative, rest) := Numeral.takeSign cs; (unit negative, rest)
  match rest with
  | 'j' :: rest | 'J' :: rest => some (x, rest)
  | _ => none

def take (cs : List Char) : Option (Complex × List Char) :=
  match takeImaginary cs with
  | some (y, rest) => some (⟨.zero false, y⟩, rest)
  | none => match takePart cs with
    | none => none
    | some (x, '+' :: rest) => (takeImaginary ('+' :: rest)).map fun (y, rest) ↦ (⟨x, y⟩, rest)
    | some (x, '-' :: rest) => (takeImaginary ('-' :: rest)).map fun (y, rest) ↦ (⟨x, y⟩, rest)
    | some (x, rest) => some (⟨x, .zero false⟩, rest)

def withoutParentheses (cs : List Char) : Option (List Char) :=
  match trim cs with
  | '(' :: cs => match (trim cs).reverse with
    | ')' :: cs => some (trim cs.reverse)
    | _ => none
  | cs => some cs

/-- Reads a number; white space may stand around it and single underscores may group its digits. -/
def read (cs : List Char) : Option Complex := do
  let cs ← Numeral.ungroup (cs.map fun c ↦ match digit? c with
    | some d => Char.ofNat (48 + d)
    | none => c)
  match take (← withoutParentheses cs) with
  | some (z, []) => some z
  | _ => none

end Complex

end TypedSearch
