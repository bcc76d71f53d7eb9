import TypedSearch.Text.Digit

/-!
# Dates

Days of the Gregorian calendar, extended backwards to year 1 and forwards to year 9999. A `Date`
exists by construction, so a reader that returns one has refused every day that does not exist.
-/

namespace TypedSearch

open Text

/-- Does the year have a 29 February? -/
def isLeap (year : Nat) : Bool := year % 4 == 0 && (year % 100 != 0 || year % 400 == 0)

def daysIn (year month : Nat) : Nat :=
  if month == 2 then (if isLeap year then 29 else 28)
  else if month == 4 || month == 6 || month == 9 || month == 11 then 30
  else 31

def DateExists (year month day : Nat) : Prop :=
  (1 ≤ year ∧ year ≤ 9999) ∧ (1 ≤ month ∧ month ≤ 12) ∧ 1 ≤ day ∧ day ≤ daysIn year month

instance (y m d : Nat) : Decidable (DateExists y m d) := inferInstanceAs (Decidable (_ ∧ _))

/-- A day of the calendar. -/
structure Date where
  year : Nat
  month : Nat
  day : Nat
  exists_day : DateExists year month day
deriving DecidableEq, Repr

namespace Date

def of? (year month day : Nat) : Option Date :=
  if h : DateExists year month day then some ⟨year, month, day, h⟩ else none

/-- A date is made of the parts that it shows again. -/
theorem of?_eq_some_iff {y m d : Nat} {x : Date} :
    of? y m d = some x ↔ x.year = y ∧ x.month = m ∧ x.day = d := by
  unfold of?
  split
  · rename_i h
    constructor
    · intro e; cases e; simp
    · rintro ⟨rfl, rfl, rfl⟩; rfl
  · rename_i h
    constructor
    · intro e; cases e
    · rintro ⟨rfl, rfl, rfl⟩; exact absurd x.exists_day h

@[simp] theorem of?_self (x : Date) : of? x.year x.month x.day = some x :=
  of?_eq_some_iff.2 ⟨rfl, rfl, rfl⟩

def next? (d : Date) : Option Date :=
  of? d.year d.month (d.day + 1) <|> of? d.year (d.month + 1) 1 <|> of? (d.year + 1) 1 1

def prev? (d : Date) : Option Date :=
  of? d.year d.month (d.day - 1) <|> of? d.year (d.month - 1) (daysIn d.year (d.month - 1)) <|>
    of? (d.year - 1) 12 31

/-- A date as `2008-03-14`. -/
def write (d : Date) : List Char :=
  padded 4 d.year ++ '-' :: padded 2 d.month ++ '-' :: padded 2 d.day

end Date

end TypedSearch
