import TypedSearch.Calendar.Timestamp
import TypedSearch.Number.Power

/-!
# Dates in words and patterns

The number of a day in the calendar and its place in the week; dates and moments by the standard
form with dashes and colons; and patterns, in which a percent mark and a letter stand for a part of
a moment.
-/

namespace TypedSearch

open Text

namespace Date

def daysBefore (year : Nat) : Nat → Nat
  | 0 | 1 => 0
  | month + 1 => daysBefore year month + daysIn year month

def dayOfYear (d : Date) : Nat := daysBefore d.year d.month + d.day

/-- The number of a day, the first of January of the year 1 being day 1. -/
def ordinal (d : Date) : Nat :=
  let y := d.year - 1
  365 * y + y / 4 - y / 100 + y / 400 + d.dayOfYear

/-- The day of the week, Monday being 0. -/
def weekday (d : Date) : Nat := (d.ordinal + 6) % 7

/-- The day so many days after the first of a month, if the year goes as far; at most `fuel` months
on. -/
def inYear? (year : Nat) : Nat → Nat → Nat → Option Date
  | 0, _, _ => none
  | fuel + 1, month, days =>
    if days < daysIn year month then of? year month (days + 1)
    else inYear? year fuel (month + 1) (days - daysIn year month)

def ofOrdinal? (n : Nat) : Option Date :=
  let before (year : Nat) : Nat := let y := year - 1; 365 * y + y / 4 - y / 100 + y / 400
  let guess := n / 366 + 1
  ((List.range 40).map (guess + ·)).findSome? fun year ↦
    if before year < n && n ≤ before (year + 1) then inYear? year 12 1 (n - before year - 1)
      else none

def digits? (cs : List Char) : Option Nat :=
  cs.foldlM (fun n c ↦ do return 10 * n + (← Timestamp.ascii? 0 9 c)) 0

/-- The date in the standard form, with or without dashes. -/
def read? (cs : List Char) : Option Date :=
  match cs with
  | [a, b, c, d, '-', e, f, '-', g, h] | [a, b, c, d, e, f, g, h] => do
    of? (← digits? [a, b, c, d]) (← digits? [e, f]) (← digits? [g, h])
  | _ => none

example : (Date.of? 2024 2 29).map weekday = some 3 ∧
    (Date.ofOrdinal? 738945).map Date.write = some "2024-02-29".toList := by decide +kernel

end Date

namespace Time

/-- A time in the standard form: hours, minutes, seconds and parts of a second, of which the later
ones may be left out. -/
def read? (cs : List Char) : Option Time :=
  match cs with
  | [a, b] => do of? (← Date.digits? [a, b]) 0 0 0
  | [a, b, ':', c, d] => do of? (← Date.digits? [a, b]) (← Date.digits? [c, d]) 0 0
  | a :: b :: ':' :: c :: d :: ':' :: e :: f :: more => do
    let micro ← match more with
      | [] => some 0
      | '.' :: ds | ',' :: ds =>
        if ds.isEmpty then none
          else (Date.digits? (ds.take 6)).map fun n ↦ n * tenTo (6 - ds.length)
      | _ => none
    of? (← Date.digits? [a, b]) (← Date.digits? [c, d]) (← Date.digits? [e, f]) micro
  | _ => none

end Time

namespace Moment

/-- The moment in the standard form: a date, and a time behind any one character; what the clock is
ahead of universal time may follow. -/
def read? (cs : List Char) : Option Moment := do
  let isDashed := cs.contains '-' && (cs.take 5).getLast? == some '-'
  let n := if isDashed then 10 else 8
  let d ← Date.read? (cs.take n)
  match cs.drop n with
  | [] => return ⟨d, .ofMicros 0, none⟩
  | _ :: time =>
    let isClock (c : Char) : Bool := c != '+' && c != '-' && c != 'Z'
    let t ← Time.read? (time.takeWhile isClock)
    match time.dropWhile isClock with
    | [] => return ⟨d, t, none⟩
    | ['Z'] => return ⟨d, t, some .utc⟩
    | sign :: ahead =>
      if sign == 'Z' then none
      else
        let o ← Time.read? ahead
        let micros : Int := if sign == '-' then -(o.micros : Int) else o.micros
        return ⟨d, t, some (← Offset.of? micros)⟩

def dayNames : List String :=
  ["Monday", "Tuesday", "Wednesday", "Thursday", "Friday", "Saturday", "Sunday"]

def monthNames : List String := [
  "January", "February", "March", "April", "May", "June", "July", "August", "September", "October",
  "November", "December"]

/-- What stands for a letter of a pattern, if the letter is known. -/
def part? (m : Moment) (c : Char) : Option (List Char) :=
  let name (names : List String) (i : Nat) : Option (List Char) := (names[i]?).map String.toList
  match c with
  | 'Y' => if m.date.year < 1000 then none else some (decimalDigits m.date.year)
  | 'm' => some (padded 2 m.date.month)
  | 'd' => some (padded 2 m.date.day)
  | 'H' => some (padded 2 m.time.hour)
  | 'M' => some (padded 2 m.time.minute)
  | 'S' => some (padded 2 m.time.second)
  | 'f' => some (padded 6 m.time.micro)
  | 'y' => some (padded 2 (m.date.year % 100))
  | 'j' => some (padded 3 m.date.dayOfYear)
  | 'A' => name dayNames m.date.weekday
  | 'a' => (name dayNames m.date.weekday).map (·.take 3)
  | 'B' => name monthNames (m.date.month - 1)
  | 'b' => (name monthNames (m.date.month - 1)).map (·.take 3)
  | 'w' => some (decimalDigits ((m.date.weekday + 1) % 7))
  | 'u' => some (decimalDigits (m.date.weekday + 1))
  | 'I' => some (padded 2 ((m.time.hour + 11) % 12 + 1))
  | 'p' => some (if m.time.hour < 12 then ['A', 'M'] else ['P', 'M'])
  | '%' => some ['%']
  | _ => none

/-- A moment as a pattern says, if all letters of the pattern are known. -/
def layOut? (m : Moment) : List Char → Option (List Char)
  | '%' :: c :: cs => do return (← m.part? c) ++ (← layOut? m cs)
  | '%' :: [] => none
  | c :: cs => do return c :: (← layOut? m cs)
  | [] => some []

/-- The parts of a moment that a pattern has come to: year, month, day, hour, minute and second. -/
abbrev Parts := List (Char × Nat)

/-- Reads the parts of a moment as a pattern says; the letters are those of numbers of up to two
digits, and that of a year. -/
def partsOf? (parts : Parts) : List Char → List Char → Option Parts
  | [], [] => some parts
  | '%' :: c :: pattern, cs =>
    let width := if c == 'Y' then 4 else 2
    let ds := (cs.take width).takeWhile Char.isDigit
    if !"YmdHMS".toList.contains c || ds.isEmpty || (c == 'Y' && ds.length != 4) then none
    else partsOf? ((c, ofDigits (ds.map fun d ↦ d.toNat - 48)) :: parts) pattern (cs.drop ds.length)
  | p :: pattern, c :: cs => if p == c then partsOf? parts pattern cs else none
  | _, _ => none

def ofPattern? (pattern text : List Char) : Option Moment := do
  let parts ← partsOf? [] pattern text
  let part (c : Char) (least : Nat) : Nat := (parts.lookup c).getD least
  return ⟨← Date.of? (part 'Y' 1900) (part 'm' 1) (part 'd' 1),
    ← Time.of? (part 'H' 0) (part 'M' 0) (part 'S' 0) 0, none⟩

end Moment

end TypedSearch
