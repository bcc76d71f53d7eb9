import TypedSearch.Text.Blank
import TypedSearch.Text.Digit

/-!
# Numerals

The written form that all number readers share: an optional sign, digits with an optional point
among them, and an optional power of ten. Digits may come from any script.
-/

namespace TypedSearch

open Text

/-- A number as written: its sign, the digits before and after the point, and the power of ten. -/
structure Numeral where
  negative : Bool
  whole : List Nat
  fraction : List Nat
  exponent : Int
deriving DecidableEq, Repr

namespace Numeral

/-- All digits of a numeral, as one number without a point. -/
def coefficient (x : Numeral) : Nat := ofDigits (x.whole ++ x.fraction)

/-- The power of ten by which `coefficient` is scaled. -/
def scale (x : Numeral) : Int := x.exponent - x.fraction.length

/-! ## Parts of a numeral -/

def takeSign : List Char → Bool × List Char
  | '-' :: cs => (true, cs)
  | '+' :: cs => (false, cs)
  | cs => (false, cs)

def takeDigits : List Char → List Nat × List Char
  | [] => ([], [])
  | c :: cs => match digit? c with
    | none => ([], c :: cs)
    | some d => let rest := takeDigits cs; (d :: rest.1, rest.2)

/-- A signed row of digits that makes up the whole text. -/
def signedDigits? (cs : List Char) : Option (Bool × List Nat) :=
  let (negative, cs) := takeSign cs
  match takeDigits cs with
  | (d :: ds, []) => some (negative, d :: ds)
  | _ => none

/-- The integer that a sign and a row of digits denote. -/
def signed (negative : Bool) (n : Nat) : Int := if negative then -n else n

/-- The power of ten at the end of a numeral: nothing, or `e` and a signed row of digits. -/
def exponent? : List Char → Option Int
  | [] => some 0
  | c :: cs =>
    if c == 'e' || c == 'E' then (signedDigits? cs).map fun (s, ds) ↦ signed s (ofDigits ds)
      else none

/-- Reads a numeral without a sign; there is at least one digit beside the point. -/
def unsigned? (negative : Bool) (cs : List Char) : Option Numeral :=
  let (whole, cs) := takeDigits cs
  let (fraction, cs) := match cs with
    | '.' :: cs => takeDigits cs
    | _ => ([], cs)
  if whole.isEmpty && fraction.isEmpty then none
  else (exponent? cs).map fun e ↦ ⟨negative, whole, fraction, e⟩

def read (cs : List Char) : Option Numeral :=
  let (negative, cs) := takeSign cs
  unsigned? negative cs

/-! ## Grouping -/

/-- Drops the underscores that stand between two digits and refuses any other; `afterDigit` tells
whether a digit stands before the text. -/
def ungroupAfter (afterDigit : Bool) : List Char → Option (List Char)
  | [] => some []
  | c :: cs =>
    if c == '_' then
      if afterDigit && cs.head?.any isDigit then ungroupAfter false cs else none
    else (ungroupAfter (isDigit c) cs).map (c :: ·)

/-- Drops the underscores that group the digits of a number. -/
def ungroup (cs : List Char) : Option (List Char) := ungroupAfter false cs

/-- Does the character pass as padding around a number? The ASCII separators do not. -/
def isPadding (c : Char) : Bool := isBlank c && !(28 ≤ c.toNat && c.toNat ≤ 31)

/-- A written number without the padding around it. -/
def unpad (cs : List Char) : List Char := strip isPadding cs

end Numeral

end TypedSearch
