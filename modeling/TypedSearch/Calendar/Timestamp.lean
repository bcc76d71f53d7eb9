import TypedSearch.Calendar.Moment
import TypedSearch.Text.Blank

/-!
# Timestamps

The wire form of a moment, `2008-03-14T15:09:26Z`: always universal time, to the second. Writing
does not fill up the year; reading wants four digits of it and takes one or two for every other
part.

## What is covered

`layout` writes a moment under the format of timestamps and `read` is the pattern that the format
stands for when a text is read by it. Names of months and time zones do not occur in the format and
are left out.
-/

namespace TypedSearch.Timestamp

open Text

/-! ## Writing -/

def layout (d : Date) (t : Time) : List Char :=
  decimalDigits d.year ++ '-' :: padded 2 d.month ++ '-' :: padded 2 d.day ++
    'T' :: padded 2 t.hour ++ ':' :: padded 2 t.minute ++ ':' :: padded 2 t.second ++ ['Z']

/-- The wire form of a moment. One with an offset is moved to universal time first, which fails at
the ends of the calendar. -/
def write? (m : Moment) : Option (List Char) :=
  match m.offset with
  | none => some (layout m.date m.time)
  | some o => (m.toUtc? o).map fun u ↦ layout u.date u.time

/-! ## Reading the parts -/

/-- The value of an ASCII digit from `low` to `high`. -/
def ascii? (low high : Nat) (c : Char) : Option Nat :=
  if 48 + low ≤ c.toNat ∧ c.toNat ≤ 48 + high then some (c.toNat - 48) else none

def pair (tens units : Option Nat) : Option Nat := do return 10 * (← tens) + (← units)

/-- A year: four digits of any script. -/
def year? : List Char → Option Nat
  | [a, b, c, d] => (digits? [a, b, c, d]).map ofDigits
  | _ => none

/-- A month: an ASCII number from 1 to 12, with or without a leading zero. -/
def month? : List Char → Option Nat
  | [c] => ascii? 1 9 c
  | [c, d] => pair (ascii? 1 1 c) (ascii? 0 2 d) <|> pair (ascii? 0 0 c) (ascii? 1 9 d)
  | _ => none

/-- A day of a month: a number from 1 to 31, with or without a leading zero or space. -/
def day? : List Char → Option Nat
  | [c] => ascii? 1 9 c
  | [' ', d] => ascii? 1 9 d
  | [c, d] =>
    pair (ascii? 3 3 c) (ascii? 0 1 d) <|> pair (ascii? 1 2 c) (digit? d) <|>
      pair (ascii? 0 0 c) (ascii? 1 9 d)
  | _ => none

/-- An hour: a number up to 23. -/
def hour? : List Char → Option Nat
  | [c] => digit? c
  | [c, d] => pair (ascii? 2 2 c) (ascii? 0 3 d) <|> pair (ascii? 0 1 c) (digit? d)
  | _ => none

/-- A minute or a second: a number up to 59. -/
def sixtieth? : List Char → Option Nat
  | [c] => digit? c
  | [c, d] => pair (ascii? 0 5 c) (digit? d)
  | _ => none

/-! ## Reading -/

/-- Reads a part with `read?` up to the mark `c` and passes what follows the mark on. -/
def upTo {α : Type} (mark : Char) (read? : List Char → Option α) (cs : List Char) :
    Option (α × List Char) :=
  match cut mark cs with
  | (part, some rest) => (read? part).map fun x ↦ (x, rest)
  | _ => none

/-- Writes the two letters of a timestamp in upper case. -/
def upperMarks (cs : List Char) : List Char :=
  cs.map fun c ↦ if c == 't' then 'T' else if c == 'z' then 'Z' else c

/-- Reads a timestamp that makes up the whole text; its letters may be of either case. -/
def read (cs : List Char) : Option Moment := do
  let (y, cs) ← upTo '-' year? (upperMarks cs)
  let (mo, cs) ← upTo '-' month? cs
  let (d, cs) ← upTo 'T' day? cs
  let (h, cs) ← upTo ':' hour? cs
  let (mi, cs) ← upTo ':' sixtieth? cs
  let (s, cs) ← upTo 'Z' sixtieth? cs
  if cs.isEmpty then
    return ⟨← Date.of? y mo d, ← Time.of? h mi s 0, some .utc⟩
  else none

example : (read "2008-3-14t15:9:26z".toList).bind write? = some "2008-03-14T15:09:26Z".toList := by
  decide

end TypedSearch.Timestamp
