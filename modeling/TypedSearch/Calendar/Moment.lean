import TypedSearch.Calendar.Date

/-!
# Moments

A time of day on a date, with the offset of its clock from universal time when that is known.
-/

namespace TypedSearch

open Text

/-- A time of day, to the microsecond. -/
structure Time where
  hour : Nat
  minute : Nat
  second : Nat
  micro : Nat
  exists_time : hour < 24 ∧ minute < 60 ∧ second < 60 ∧ micro < 1000000
deriving DecidableEq, Repr

def microsPerDay : Nat := 86400000000

namespace Time

def of? (hour minute second micro : Nat) : Option Time :=
  if h : hour < 24 ∧ minute < 60 ∧ second < 60 ∧ micro < 1000000 then
    some ⟨hour, minute, second, micro, h⟩
  else none

@[simp] theorem of?_self (t : Time) : of? t.hour t.minute t.second t.micro = some t := by
  simp [of?, t.exists_time]

def micros (t : Time) : Nat :=
  ((t.hour * 60 + t.minute) * 60 + t.second) * 1000000 + t.micro

/-- The time of day so many microseconds after a midnight. -/
def ofMicros (n : Nat) : Time where
  hour := n / 3600000000 % 24
  minute := n / 60000000 % 60
  second := n / 1000000 % 60
  micro := n % 1000000
  exists_time := by omega

@[simp] theorem ofMicros_micros (t : Time) : ofMicros t.micros = t := by
  obtain ⟨h, m, s, u, hh, hm, hs, hu⟩ := t
  simp only [ofMicros, micros, Time.mk.injEq]
  omega

/-- A time as `15:09:26`, with six more digits behind a point if it has microseconds. -/
def write (t : Time) : List Char :=
  padded 2 t.hour ++ ':' :: padded 2 t.minute ++ ':' :: padded 2 t.second ++
    if t.micro = 0 then [] else '.' :: padded 6 t.micro

end Time

/-- How far a clock is ahead of universal time: less than a day either way. -/
structure Offset where
  micros : Int
  lt_day : micros.natAbs < microsPerDay
deriving DecidableEq, Repr

namespace Offset

def utc : Offset := ⟨0, by decide⟩

/-- The offset of so many microseconds, if that is less than a day. -/
def of? (micros : Int) : Option Offset :=
  if h : micros.natAbs < microsPerDay then some ⟨micros, h⟩ else none

/-- An offset as `+01:00`, with seconds and microseconds if it has them. -/
def write (o : Offset) : List Char :=
  let t := Time.ofMicros o.micros.natAbs
  (if o.micros < 0 then '-' else '+') :: (padded 2 t.hour ++ ':' :: padded 2 t.minute ++
    if t.second = 0 ∧ t.micro = 0 then []
    else ':' :: padded 2 t.second ++ if t.micro = 0 then [] else '.' :: padded 6 t.micro)

end Offset

/-- A time of day on a date. Without an offset it is what some unknown clock shows. -/
structure Moment where
  date : Date
  time : Time
  offset : Option Offset
deriving DecidableEq, Repr

namespace Moment

/-- The same moment on a clock that shows universal time, if that clock's date is in the
calendar. -/
def toUtc? (m : Moment) (o : Offset) : Option Moment :=
  let n : Int := m.time.micros - o.micros
  if n < 0 then
    m.date.prev?.map fun d ↦ ⟨d, .ofMicros (n + microsPerDay).toNat, some .utc⟩
  else if microsPerDay ≤ n then
    m.date.next?.map fun d ↦ ⟨d, .ofMicros (n - microsPerDay).toNat, some .utc⟩
  else some ⟨m.date, .ofMicros n.toNat, some .utc⟩

/-- A moment as `2008-03-14 15:09:26+00:00`. -/
def write (m : Moment) : List Char :=
  m.date.write ++ ' ' :: m.time.write ++ match m.offset with
    | none => []
    | some o => o.write

end Moment

end TypedSearch
