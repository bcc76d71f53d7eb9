import TypedSearch.Number.Binary64

/-!
# Arithmetic

Whole numbers bit by bit, negative ones as if an endless row of ones stood before them, and the four
operations on binary numbers, each rounded once.
-/

namespace TypedSearch

/-! ## Bits of whole numbers -/

namespace Whole

/-- The bits of `a` that `b` does not have. -/
def without (a b : Nat) : Nat := a - (a &&& b)

def bitAnd : Int → Int → Int
  | .ofNat a, .ofNat b => .ofNat (a &&& b)
  | .ofNat a, .negSucc b => .ofNat (without a b)
  | .negSucc a, .ofNat b => .ofNat (without b a)
  | .negSucc a, .negSucc b => .negSucc (a ||| b)

def bitOr : Int → Int → Int
  | .ofNat a, .ofNat b => .ofNat (a ||| b)
  | .ofNat a, .negSucc b => .negSucc (without b a)
  | .negSucc a, .ofNat b => .negSucc (without a b)
  | .negSucc a, .negSucc b => .negSucc (a &&& b)

def bitXor : Int → Int → Int
  | .ofNat a, .ofNat b => .ofNat (a ^^^ b)
  | .ofNat a, .negSucc b | .negSucc b, .ofNat a => .negSucc (a ^^^ b)
  | .negSucc a, .negSucc b => .ofNat (a ^^^ b)

example : bitAnd (-2) 7 = 6 ∧ bitOr (-8) 3 = -5 ∧ bitXor (-1) 5 = -6 := by decide

end Whole

/-! ## Binary numbers -/

namespace Binary64

/-- The number nearest to `n · 2 ^ e`; zero gets the given sign. -/
def ofScaled (isNegativeZero : Bool) (n : Int) (e : Int) : Binary64 :=
  if n = 0 then zero isNegativeZero
  else if 0 ≤ e then ofFraction (n < 0) (n.natAbs * twoTo e.toNat) 1
  else ofFraction (n < 0) n.natAbs (twoTo e.natAbs)

/-- The number nearest to a whole number. -/
def ofWhole (n : Int) : Binary64 := ofScaled false n 0

def neg : Binary64 → Binary64
  | .finite s m e => .finite (!s) m e
  | .infinite s => .infinite (!s)
  | .nan => .nan

def add : Binary64 → Binary64 → Binary64
  | .finite s m e, .finite t n f =>
    let low := min e f
    ofScaled (s && t) (Numeral.signed s (m * twoTo (e - low).toNat) +
      Numeral.signed t (n * twoTo (f - low).toNat)) low
  | .infinite s, .infinite t => if s == t then .infinite s else .nan
  | .infinite s, .finite .. | .finite .., .infinite s => .infinite s
  | .nan, _ | _, .nan => .nan

def sub (x y : Binary64) : Binary64 := add x y.neg

def mul : Binary64 → Binary64 → Binary64
  | .finite s m e, .finite t n f => ofScaled (s != t) (Numeral.signed (s != t) (m * n)) (e + f)
  | .infinite s, .infinite t => .infinite (s != t)
  | .infinite s, .finite t n _ | .finite t n _, .infinite s =>
    if n = 0 then .nan else .infinite (s != t)
  | .nan, _ | _, .nan => .nan

def div : Binary64 → Binary64 → Binary64
  | .finite s m e, .finite t n f =>
    if n = 0 then .nan
    else if m = 0 then zero (s != t)
    else
      let (num, den) := scaleDown m n (f - e)
      ofFraction (s != t) num den
  | .infinite _, .infinite _ => .nan
  | .infinite s, .finite t _ _ => .infinite (s != t)
  | .finite s _ _, .infinite t => zero (s != t)
  | .nan, _ | _, .nan => .nan

example : (div (ofWhole 1) (ofWhole 4)).write = "0.25".toList ∧
    (add (ofWhole 1) (div (ofWhole 1) (ofWhole 10))).write = "1.1".toList := by decide +kernel

end Binary64

end TypedSearch
