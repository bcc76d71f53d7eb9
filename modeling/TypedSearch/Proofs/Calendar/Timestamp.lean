import TypedSearch.Calendar.Timestamp
import TypedSearch.Proofs.Number.Numeral

/-!
# Timestamps read back

The wire form keeps a moment of universal time in full if it has no microseconds and its year has
four digits (`Timestamp.Keeps`). The reader cuts the text at the marks between the parts, none of
which is a digit, and each part is read back from the two digits (or, for the year, four) that were
written of it.

Whatever text is read, the moment is one of universal time, to the second.
-/

namespace TypedSearch.Timestamp

open Text

variable {cs rest : List Char}

/-! ## Parts -/

/-- A year of the calendar is read back from its four digits. -/
theorem year?_padded {y : Nat} (h : y ≤ 9999) : year? (padded 4 y) = some y := by
  have hlength : (padded 4 y).length = 4 := length_padded_of_lt (by decide) (by omega)
  have hdigits := digits?_of_allDigits (allDigits_padded 4 y)
  have hvalue := ofDigits_padded 4 y
  match hcs : padded 4 y with
  | [a, b, c, d] =>
    rw [hcs] at hdigits hvalue
    rw [year?, hdigits, Option.map_some, hvalue]
  | [] | [_] | [_, _] | [_, _, _] | _ :: _ :: _ :: _ :: _ :: _ =>
    rw [hcs] at hlength
    simp only [List.length_cons, List.length_nil] at hlength
    omega

theorem year?_decimalDigits {y : Nat} (h : 1000 ≤ y) (h' : y ≤ 9999) :
    year? (decimalDigits y) = some y := by
  have hgt : ¬ (decimalDigits y).length ≤ 3 := by
    intro hlt
    have := (Nat.length_toDigits_le_iff (b := 10) (by decide) (by decide)).1 hlt
    omega
  -- from the year 1000 on, nothing is filled up
  have hzeros : 4 - (decimalDigits y).length = 0 := by omega
  have hpadded := year?_padded h'
  rwa [padded, hzeros] at hpadded

theorem month?_padded : ∀ m ≤ 12, 1 ≤ m → month? (padded 2 m) = some m := by decide +kernel

theorem day?_padded : ∀ d ≤ 31, 1 ≤ d → day? (padded 2 d) = some d := by decide +kernel

theorem hour?_padded : ∀ h < 24, hour? (padded 2 h) = some h := by decide +kernel

theorem sixtieth?_padded : ∀ m < 60, sixtieth? (padded 2 m) = some m := by decide +kernel

theorem daysIn_le (y m : Nat) : daysIn y m ≤ 31 := by
  unfold daysIn
  split
  · split <;> decide
  · split <;> decide

/-! ## Marks -/

/-- A part of digits is read up to the mark behind it. -/
theorem upTo_append {α : Type} (mark : Char) {read? : List Char → Option α} {x : α}
    (hx : read? cs = some x) (hcs : AllDigits cs) (hmark : mark.isDigit = false)
    (rest : List Char) :
    upTo mark read? (cs ++ mark :: rest) = some (x, rest) := by
  have hnot : mark ∉ cs := fun h ↦ ne_of_isDigit (hcs mark h) hmark rfl
  rw [upTo, cut_append hnot]
  simp [hx]

/-- The wire form of a date and a time whose year is written in a way of its own. -/
def layoutBehind (year : List Char) (d : Date) (t : Time) : List Char :=
  year ++ '-' :: (padded 2 d.month ++ '-' :: (padded 2 d.day ++ 'T' ::
    (padded 2 t.hour ++ ':' :: (padded 2 t.minute ++ ':' :: (padded 2 t.second ++ 'Z' :: [])))))

/-- The written layout, with the digits of its year in front. -/
theorem layout_eq (d : Date) (t : Time) : layout d t = layoutBehind (decimalDigits d.year) d t := by
  simp [layout, layoutBehind]

def marks : List Char := ['-', 'T', ':', 'Z']

theorem forall_mem_marks {P : Char → Prop} : (∀ c ∈ marks, P c) ↔ P '-' ∧ P 'T' ∧ P ':' ∧
    P 'Z' := by
  simp [marks]

section Layout

variable {year : List Char} {d : Date} {t : Time} {c : Char}

/-- A timestamp is made of digits and marks. -/
theorem isDigit_or_mem_marks_of_mem_layoutBehind (hyear : AllDigits year)
    (h : c ∈ layoutBehind year d t) :
    c.isDigit = true ∨ c ∈ marks := by
  have hdigits : ∀ n, c ∈ padded 2 n → c.isDigit = true := fun n ↦ allDigits_padded 2 n c
  simp only [layoutBehind, marks, List.mem_append, List.mem_cons, List.not_mem_nil, or_false] at h ⊢
  have := hyear c
  grind

theorem isBlank_of_mem_layoutBehind (hyear : AllDigits year) (h : c ∈ layoutBehind year d t) :
    isBlank c = false := by
  have hmarks : ∀ c ∈ marks, isBlank c = false := forall_mem_marks.2 ⟨rfl, rfl, rfl, rfl⟩
  rcases isDigit_or_mem_marks_of_mem_layoutBehind hyear h with h | h
  · exact isBlank_of_isDigit h
  · exact hmarks c h

theorem upperMarks_eq_self (ht : 't' ∉ cs) (hz : 'z' ∉ cs) : upperMarks cs = cs := by
  have hsame : ∀ c ∈ cs, (if c == 't' then 'T' else if c == 'z' then 'Z' else c) = c := by
    intro c hc
    have htne : c ≠ 't' := fun h ↦ ht (h ▸ hc)
    have hzne : c ≠ 'z' := fun h ↦ hz (h ▸ hc)
    simp [htne, hzne]
  rw [upperMarks, List.map_congr_left hsame, List.map_id']

/-- A layout is written in capitals already. -/
theorem upperMarks_layoutBehind (hyear : AllDigits year) :
    upperMarks (layoutBehind year d t) = layoutBehind year d t := by
  have hnot : ∀ c, c.isDigit = false → c ∉ marks → c ∉ layoutBehind year d t := by
    intro c hdigit hmarks h
    rcases isDigit_or_mem_marks_of_mem_layoutBehind hyear h with h | h
    · rw [hdigit] at h
      cases h
    · exact hmarks h
  exact upperMarks_eq_self (hnot 't' rfl (by decide)) (hnot 'z' rfl (by decide))

/-- A layout is read back as soon as its year is. -/
theorem read_layoutBehind (hyear : AllDigits year) (hread : year? year = some d.year)
    (ht : t.micro = 0) :
    read (layoutBehind year d t) = some ⟨d, t, some .utc⟩ := by
  obtain ⟨-, ⟨hmonth, hmonth'⟩, hday, hday'⟩ := d.exists_day
  obtain ⟨hhour, hminute, hsecond, -⟩ := t.exists_time
  have hy := upTo_append '-' hread hyear rfl
  have hmo := upTo_append '-' (month?_padded _ hmonth' hmonth) (allDigits_padded 2 _) rfl
  have hda := upTo_append 'T' (day?_padded _ (Nat.le_trans hday' (daysIn_le ..)) hday)
    (allDigits_padded 2 _) rfl
  have hho := upTo_append ':' (hour?_padded _ hhour) (allDigits_padded 2 _) rfl
  have hmi := upTo_append ':' (sixtieth?_padded _ hminute) (allDigits_padded 2 _) rfl
  have hse := upTo_append 'Z' (sixtieth?_padded _ hsecond) (allDigits_padded 2 _) rfl
  have htime : Time.of? t.hour t.minute t.second 0 = some t := ht ▸ Time.of?_self t
  rw [read, upperMarks_layoutBehind hyear, layoutBehind]
  simp [hy, hmo, hda, hho, hmi, hse, htime]

/-! ## Whole timestamps -/

theorem isBlank_of_mem_layout (h : c ∈ layout d t) : isBlank c = false :=
  isBlank_of_mem_layoutBehind (allDigits_decimalDigits d.year) (layout_eq d t ▸ h)

theorem all_isBlank_layout (d : Date) (t : Time) : (layout d t).all isBlank = false := by
  refine List.all_eq_false.2 ⟨'Z', ?_, by decide⟩
  simp [layout]

/-- From the year 1000 on, what is written is read back. -/
theorem read_layout (hd : 1000 ≤ d.year) (ht : t.micro = 0) :
    read (layout d t) = some ⟨d, t, some .utc⟩ := by
  obtain ⟨⟨-, hyear⟩, -⟩ := d.exists_day
  rw [layout_eq]
  exact read_layoutBehind (allDigits_decimalDigits _) (year?_decimalDigits hd hyear) ht

end Layout

/-- Is nothing of the moment lost in its wire form? -/
structure Keeps (m : Moment) : Prop where
  offset_eq : m.offset = some .utc
  micro_eq : m.time.micro = 0
  le_year : 1000 ≤ m.date.year

theorem toUtc?_utc {m : Moment} (h : m.offset = some .utc) : m.toUtc? .utc = some m := by
  obtain ⟨d, t, o⟩ := m
  have hday : t.micros < microsPerDay := by
    have := t.exists_time
    simp only [Time.micros, microsPerDay]
    omega
  have hn : (t.micros : Int) - Offset.utc.micros = t.micros := Int.sub_zero _
  have hneg : ¬ ((t.micros : Int) < 0) := by omega
  have hlt : ¬ ((microsPerDay : Int) ≤ t.micros) := by omega
  rw [Moment.toUtc?, hn, if_neg hneg, if_neg hlt, Int.toNat_natCast, Time.ofMicros_micros, ← h]

/-- A moment of universal time is written as it stands. -/
theorem write?_of_utc {m : Moment} (h : m.offset = some .utc) :
    write? m = some (layout m.date m.time) := by
  simp [write?, h, toUtc?_utc h]

/-- A moment that the wire form keeps is read back from it. -/
theorem read_trim_write? {m : Moment} (h : Keeps m) :
    ∃ cs, write? m = some cs ∧ cs.all isBlank = false ∧ read (trim cs) = some m := by
  refine ⟨_, write?_of_utc h.offset_eq, all_isBlank_layout .., ?_⟩
  rw [trim_eq_self fun _ ↦ isBlank_of_mem_layout, read_layout h.le_year h.micro_eq, ← h.offset_eq]

/-! ## What is read -/

def IsUtcSecond (m : Moment) : Prop := m.offset = some .utc ∧ m.time.micro = 0

/-- The parts of a time are those it is made of. -/
theorem parts_of_of? {h m s u : Nat} {t : Time} (ht : Time.of? h m s u = some t) :
    t.hour = h ∧ t.minute = m ∧ t.second = s ∧ t.micro = u := by
  unfold Time.of? at ht
  split at ht <;> cases ht
  exact ⟨rfl, rfl, rfl, rfl⟩

/-- What is read is of universal time, in whole seconds. -/
theorem isUtcSecond_of_read {m : Moment} (h : read cs = some m) : IsUtcSecond m := by
  simp only [read, Option.bind_eq_bind, Option.bind_eq_some_iff] at h
  obtain ⟨_, -, _, -, _, -, _, -, _, -, _, -, h⟩ := h
  split at h
  · obtain ⟨_, -, h⟩ := Option.bind_eq_some_iff.1 h
    obtain ⟨t, ht, h⟩ := Option.bind_eq_some_iff.1 h
    cases h
    obtain ⟨-, -, -, hmicro⟩ := parts_of_of? ht
    exact ⟨rfl, hmicro⟩
  · cases h

end TypedSearch.Timestamp
