import TypedSearch.Conversion
import TypedSearch.Proofs.Calendar.Timestamp
import TypedSearch.Proofs.Outcome

/-!
# Timestamps and the calendar

What stands in a timestamp are six numbers, whether or not there is such a moment:
`Timestamp.Spells` says which, and a text spells one row of them at most. The reader takes a text
only if it spells the parts of a moment, by a calendar that is described here without the lengths of
months it counts with (`IsDay`); and it takes every moment that is written in full.
-/

namespace TypedSearch

open Text

/-! ## Days of the calendar -/

/-- Is there such a day? A month has 31 days, but four of them have 30, and the second has 28 or, in
a leap year, 29. -/
structure IsDay (year month day : Nat) : Prop where
  year_range : 1 ≤ year ∧ year ≤ 9999
  month_range : 1 ≤ month ∧ month ≤ 12
  day_range : 1 ≤ day ∧ day ≤ 31
  short : month ∈ [4, 6, 9, 11] → day ≤ 30
  february : month = 2 → day ≤ 29
  leap : month = 2 → day = 29 → 4 ∣ year ∧ (100 ∣ year → 400 ∣ year)

/-- The Gregorian rule of leap years, by divisibility. -/
theorem isLeap_iff {y : Nat} : isLeap y = true ↔ 4 ∣ y ∧ (100 ∣ y → 400 ∣ y) := by
  simp only [isLeap, Bool.and_eq_true, Bool.or_eq_true, beq_iff_eq, bne_iff_ne,
    Nat.dvd_iff_mod_eq_zero]
  omega

/-- The length of a month by the four rules that a calendar states. -/
theorem le_daysIn_iff {y m d : Nat} : d ≤ daysIn y m ↔ d ≤ 31 ∧ (m ∈ [4, 6, 9, 11] → d ≤ 30) ∧
    (m = 2 → d ≤ 29) ∧ (m = 2 → d = 29 → isLeap y = true) := by
  simp only [daysIn, beq_iff_eq, Bool.or_eq_true, List.mem_cons, List.not_mem_nil, or_false]
  cases isLeap y <;> grind

/-- The check of a date agrees with those rules. -/
theorem dateExists_iff {y m d : Nat} : DateExists y m d ↔ IsDay y m d := by
  simp only [DateExists, le_daysIn_iff, isLeap_iff]
  constructor
  · rintro ⟨hyear, hmonth, hday, hday', hshort, hfebruary, hleap⟩
    exact ⟨hyear, hmonth, ⟨hday, hday'⟩, hshort, hfebruary, hleap⟩
  · rintro ⟨hyear, hmonth, ⟨hday, hday'⟩, hshort, hfebruary, hleap⟩
    exact ⟨hyear, hmonth, hday, hday', hshort, hfebruary, hleap⟩

/-! ## Rows of digits -/

namespace Text

variable {cs : List Char} {n k : Nat}

/-- Is the text a row of digits, of whatever scripts, with the number for its value? -/
structure Denotes (cs : List Char) (n : Nat) : Prop where
  ne_nil : cs ≠ []
  value_eq : (digits? cs).map ofDigits = some n

/-- A row of digits denotes one number. -/
theorem Denotes.unique (h : Denotes cs n) (h' : Denotes cs k) : n = k :=
  Option.some.inj (h.value_eq.symm.trans h'.value_eq)

theorem denotes_singleton {c : Char} (h : digit? c = some n) : Denotes [c] n := by
  refine ⟨List.cons_ne_nil _ _, ?_⟩
  simp [digits?, h, ofDigits]

theorem denotes_pair {c d : Char} (hc : digit? c = some n) (hd : digit? d = some k) :
    Denotes [c, d] (10 * n + k) := by
  refine ⟨List.cons_ne_nil _ _, ?_⟩
  simp [digits?, hc, hd, ofDigits]

theorem isDigit_of_digits? {ds : List Nat} (h : digits? cs = some ds) :
    ∀ c ∈ cs, isDigit c = true := by
  induction cs generalizing ds with
  | nil => simp
  | cons c cs ih =>
    simp only [digits?, List.mapM_cons, Option.bind_eq_bind, Option.bind_eq_some_iff] at h
    obtain ⟨d, hd, ds', hds, -⟩ := h
    refine List.forall_mem_cons.2 ⟨?_, ih hds⟩
    rw [isDigit, hd]
    rfl

theorem Denotes.isDigit (h : Denotes cs n) : ∀ c ∈ cs, isDigit c = true := by
  obtain ⟨ds, hds, -⟩ := Option.map_eq_some_iff.1 h.value_eq
  exact isDigit_of_digits? hds

theorem isBlank_of_zeros : ∀ z ∈ zeros, ∀ i ≤ 9, isBlank (.ofNat (z + i)) = false := by
  decide +kernel

/-- No digit of any script is white space. -/
theorem isBlank_of_digit? {c : Char} (h : isDigit c = true) : isBlank c = false := by
  obtain ⟨d, hd⟩ := Option.isSome_iff_exists.1 h
  simp only [digit?] at hd
  split at hd
  · simp only [isBlank]
    grind
  · obtain ⟨z, hfind, -⟩ := Option.map_eq_some_iff.1 hd
    have hz := List.find?_some hfind
    simp only [Bool.and_eq_true, decide_eq_true_eq] at hz
    have hblank := isBlank_of_zeros z (List.mem_of_find?_eq_some hfind) (c.toNat - z) (by omega)
    rwa [Nat.add_sub_cancel' hz.1, Char.ofNat_toNat] at hblank

/-- What is cut at a mark ends there. -/
theorem eq_append_of_cut {mark : Char} {part rest : List Char}
    (h : cut mark cs = (part, some rest)) :
    cs = part ++ mark :: rest := by
  unfold cut at h
  split at h
  · cases h
  · rename_i c tail hdrop
    cases h
    have hc : c = mark := by
      have hnot := List.head?_dropWhile_not (· != mark) cs
      rw [hdrop] at hnot
      simpa using hnot
    calc cs = cs.takeWhile (· != mark) ++ cs.dropWhile (· != mark) :=
      List.takeWhile_append_dropWhile.symm
      _ = cs.takeWhile (· != mark) ++ mark :: rest := by rw [hdrop, hc]

/-- Two rows end at the same place if neither goes beyond its mark. -/
theorem append_cons_inj {p : Char → Bool} {a a' r r' : List Char} {mark mark' : Char}
    (ha : ∀ c ∈ a, p c = true) (ha' : ∀ c ∈ a', p c = true) (hmark : p mark = false)
    (hmark' : p mark' = false) (h : a ++ mark :: r = a' ++ mark' :: r') : a = a' ∧ r = r' := by
  have htake : a = a' := by
    have htake := congrArg (List.takeWhile p) h
    rwa [List.takeWhile_append_of_pos ha, List.takeWhile_append_of_pos ha',
      List.takeWhile_cons_of_neg (by simp [hmark]), List.takeWhile_cons_of_neg (by simp [hmark']),
      List.append_nil, List.append_nil] at htake
  subst htake
  exact ⟨rfl, (List.cons.inj (List.append_cancel_left h)).2⟩

end Text

/-! ## Parts of a timestamp -/

namespace Timestamp

/-- The numbers that stand in a timestamp, whether or not there is such a moment. -/
structure Parts where
  year : Nat
  month : Nat
  day : Nat
  hour : Nat
  minute : Nat
  second : Nat

/-- Is there such a moment? -/
structure Parts.Real (p : Parts) : Prop where
  isDay : IsDay p.year p.month p.day
  hour_lt : p.hour < 24
  minute_lt : p.minute < 60
  second_lt : p.second < 60

/-- The parts in full, as in `0987-06-05T04:03:02Z`. -/
def Parts.write (p : Parts) : List Char :=
  padded 4 p.year ++ '-' :: padded 2 p.month ++ '-' :: padded 2 p.day ++
    'T' :: padded 2 p.hour ++ ':' :: padded 2 p.minute ++ ':' :: padded 2 p.second ++ ['Z']

def parts (m : Moment) : Parts :=
  ⟨m.date.year, m.date.month, m.date.day, m.time.hour, m.time.minute, m.time.second⟩

/-- Is the text the number of a day, perhaps behind a space? -/
inductive DenotesDay : List Char → Nat → Prop
  | plain {cs : List Char} {n : Nat} (h : Denotes cs n) : DenotesDay cs n
  | spaced {cs : List Char} {n : Nat} (h : Denotes cs n) : DenotesDay (' ' :: cs) n

/-- Do the parts stand in the text, with their marks between them and behind them? -/
inductive Spells : List Char → Parts → Prop
  | mk {p : Parts} {year month day hour minute second : List Char} {t z : Char}
      (hyear : Denotes year p.year) (hmonth : Denotes month p.month) (hday : DenotesDay day p.day)
      (ht : t = 'T' ∨ t = 't')
      (hhour : Denotes hour p.hour) (hminute : Denotes minute p.minute)
      (hsecond : Denotes second p.second)
      (hz : z = 'Z' ∨ z = 'z') :
    Spells
      (year ++
        '-' ::
        (month ++ '-' :: (day ++ t :: (hour ++ ':' :: (minute ++ ':' :: (second ++ z :: [])))))) p

variable {cs part rest : List Char} {p q : Parts} {m : Moment} {n k : Nat} {c mark : Char}

/-- The parts of a moment are real: its date and time are checked when it is made. -/
theorem real_parts (m : Moment) : (parts m).Real := by
  obtain ⟨hhour, hminute, hsecond, -⟩ := m.time.exists_time
  exact ⟨dateExists_iff.1 m.date.exists_day, hhour, hminute, hsecond⟩

/-- Real parts are the parts of a moment in whole seconds. -/
theorem Parts.Real.exists_moment (h : p.Real) : ∃ m, IsUtcSecond m ∧ parts m = p := by
  have htime : p.hour < 24 ∧ p.minute < 60 ∧ p.second < 60 ∧ 0 < 1000000 :=
    ⟨h.hour_lt, h.minute_lt, h.second_lt, by decide⟩
  exact ⟨⟨⟨_, _, _, dateExists_iff.2 h.isDay⟩, ⟨_, _, _, _, htime⟩, some .utc⟩, ⟨rfl, rfl⟩, rfl⟩

theorem Parts.Real.length_write (h : p.Real) : p.write.length = 20 := by
  obtain ⟨⟨⟨-, hyear⟩, ⟨-, hmonth⟩, ⟨-, hday⟩, -⟩, hhour, hminute, hsecond⟩ := h
  have hfour : (padded 4 p.year).length = 4 := length_padded_of_lt (by decide) (by omega)
  have htwo : ∀ n < 100, (padded 2 n).length = 2 := fun n hn ↦ length_padded_of_lt (by decide) hn
  simp only [write, List.length_append, List.length_cons, List.length_nil, hfour,
    htwo p.month (by omega), htwo p.day (by omega), htwo p.hour (by omega),
    htwo p.minute (by omega), htwo p.second (by omega)]

theorem write_parts (m : Moment) :
    (parts m).write = layoutBehind (padded 4 m.date.year) m.date m.time := by
  simp [parts, Parts.write, layoutBehind]

/-- The full layout of a moment is read as that moment, below the year 1000 too. -/
theorem read_write (h : IsUtcSecond m) : read (parts m).write = some m := by
  obtain ⟨⟨-, hyear⟩, -⟩ := m.date.exists_day
  rw [write_parts, read_layoutBehind (allDigits_padded 4 _) (year?_padded hyear) h.2, ← h.1]

/-! ## Each part is what it denotes -/

theorem digit?_of_ascii? {low high : Nat} (hhigh : high ≤ 9) (h : ascii? low high c = some n) :
    digit? c = some n := by
  unfold ascii? at h
  split at h
  · rename_i hc
    have hlt : c.toNat < 128 := by omega
    have hlow : 48 ≤ c.toNat := by omega
    have hhigh : c.toNat ≤ 57 := by omega
    simpa [digit?, hlt, hlow, hhigh] using h
  · cases h

theorem denotes_of_pair {c d : Char} {tens units : Option Nat}
    (hc : ∀ n, tens = some n → digit? c = some n) (hd : ∀ n, units = some n → digit? d = some n)
    (h : pair tens units = some n) : Denotes [c, d] n := by
  simp only [pair, Option.bind_eq_bind, Option.bind_eq_some_iff] at h
  obtain ⟨a, ha, b, hb, h⟩ := h
  cases h
  exact denotes_pair (hc a ha) (hd b hb)

section Pairs

variable {d : Char} {low high low' high' : Nat}

theorem denotes_of_pair_digit? (hhigh : high ≤ 9)
    (h : pair (ascii? low high c) (digit? d) = some n) : Denotes [c, d] n :=
  denotes_of_pair (fun _ ↦ digit?_of_ascii? hhigh) (fun _ ↦ id) h

theorem denotes_of_pair_ascii? (hhigh : high ≤ 9) (hhigh' : high' ≤ 9)
    (h : pair (ascii? low high c) (ascii? low' high' d) = some n) : Denotes [c, d] n :=
  denotes_of_pair (fun _ ↦ digit?_of_ascii? hhigh) (fun _ ↦ digit?_of_ascii? hhigh') h

end Pairs

theorem denotes_of_year? (h : year? cs = some n) : Denotes cs n := by
  unfold year? at h
  split at h
  · exact ⟨List.cons_ne_nil _ _, h⟩
  · cases h

theorem denotes_of_orElse {x y : Option Nat} (hx : ∀ n, x = some n → Denotes cs n)
    (hy : ∀ n, y = some n → Denotes cs n) (h : (x <|> y) = some n) : Denotes cs n := by
  cases x with
  | none => exact hy n h
  | some _ => exact hx n h

theorem denotes_of_month? (h : month? cs = some n) : Denotes cs n := by
  unfold month? at h
  split at h
  · exact denotes_singleton (digit?_of_ascii? (by decide) h)
  · exact denotes_of_orElse (fun _ ↦ denotes_of_pair_ascii? (by decide) (by decide))
      (fun _ ↦ denotes_of_pair_ascii? (by decide) (by decide)) h
  · cases h

/-- A day may stand behind a blank, and denotes the digit behind it. -/
theorem denotesDay_of_day? (h : day? cs = some n) : DenotesDay cs n := by
  unfold day? at h
  split at h
  · exact .plain (denotes_singleton (digit?_of_ascii? (by decide) h))
  · exact .spaced (denotes_singleton (digit?_of_ascii? (by decide) h))
  · refine .plain (denotes_of_orElse (fun _ ↦ ?_) (fun _ ↦ denotes_of_orElse (fun _ ↦ ?_) fun _ ↦
      ?_) h)
    · exact denotes_of_pair_ascii? (by decide) (by decide)
    · exact denotes_of_pair_digit? (by decide)
    · exact denotes_of_pair_ascii? (by decide) (by decide)
  · cases h

theorem denotes_of_hour? (h : hour? cs = some n) : Denotes cs n := by
  unfold hour? at h
  split at h
  · exact denotes_singleton h
  · exact denotes_of_orElse (fun _ ↦ denotes_of_pair_ascii? (by decide) (by decide))
      (fun _ ↦ denotes_of_pair_digit? (by decide)) h
  · cases h

theorem denotes_of_sixtieth? (h : sixtieth? cs = some n) : Denotes cs n := by
  unfold sixtieth? at h
  split at h
  · exact denotes_singleton h
  · exact denotes_of_pair_digit? (by decide) h
  · cases h

/-! ## Letters of either case -/

theorem digits?_upperMarks (cs : List Char) : digits? (upperMarks cs) = digits? cs := by
  have hsame : ∀ c, digit? (if c == 't' then 'T' else if c == 'z' then 'Z' else c) = digit? c := by
    intro c
    split
    · rename_i hc
      rw [eq_of_beq hc]
      rfl
    · split
      · rename_i hc
        rw [eq_of_beq hc]
        rfl
      · rfl
  rw [digits?, digits?, upperMarks, List.mapM_map]
  exact congrArg (cs.mapM ·) (funext hsame)

theorem denotes_upperMarks : Denotes (upperMarks cs) n ↔ Denotes cs n := by
  have hnil : upperMarks cs ≠ [] ↔ cs ≠ [] := by
    simp [upperMarks]
  constructor
  · rintro ⟨hne, hvalue⟩
    exact ⟨hnil.1 hne, digits?_upperMarks cs ▸ hvalue⟩
  · rintro ⟨hne, hvalue⟩
    exact ⟨hnil.2 hne, (digits?_upperMarks cs).symm ▸ hvalue⟩

/-- What is written in capital letters as a mark is the mark or, for a letter, its small form. -/
theorem eq_of_upperMarks (h : upperMarks [c] = [mark]) :
    c = mark ∨ (c = 't' ∧ mark = 'T') ∨ (c = 'z' ∧ mark = 'Z') := by
  simp only [upperMarks, List.map_cons, List.map_nil, List.cons.injEq, and_true] at h
  grind

theorem denotesDay_of_upperMarks (h : DenotesDay (upperMarks cs) n) : DenotesDay cs n := by
  generalize hup : upperMarks cs = up at h
  cases h with
  | plain h => exact .plain (denotes_upperMarks.1 (hup ▸ h))
  | @spaced row _ h =>
    cases cs with
    | nil => cases hup
    | cons c cs =>
      obtain ⟨hc, hrow⟩ := List.cons.inj hup
      have hrow : upperMarks cs = row := hrow
      have hspace : c = ' ' := by
        rcases eq_of_upperMarks (congrArg (fun d ↦ [d]) hc) with hc | ⟨-, hc⟩ | ⟨-, hc⟩
        · exact hc
        · cases hc
        · cases hc
      exact hspace ▸ .spaced (denotes_upperMarks.1 (hrow ▸ h))

/-! ## What is read, is spelled -/

/-- A part that is read ends at its mark, of whatever case. -/
theorem exists_of_upTo {α : Type} {read? : List Char → Option α} {x : α}
    (h : upTo mark read? (upperMarks cs) = some (x, rest)) :
    ∃ part c after, cs = part ++ c :: after ∧ read? (upperMarks part) = some x ∧
      upperMarks [c] = [mark] ∧
      upperMarks after = rest := by
  unfold upTo at h
  split at h
  · rename_i part rest' hcut
    obtain ⟨y, hy, h⟩ := Option.map_eq_some_iff.1 h
    cases h
    obtain ⟨part, tail, rfl, rfl, htail⟩ := List.map_eq_append_iff.1 (eq_append_of_cut hcut)
    obtain ⟨c, after, rfl, hc, rfl⟩ := List.map_eq_cons_iff.1 htail
    exact ⟨part, c, after, rfl, hy, congrArg (fun d ↦ [d]) hc, rfl⟩
  · cases h

/-- What is read was spelled: soundness of the reader. -/
theorem spells_of_read (h : read cs = some m) : Spells cs (parts m) := by
  simp only [read, Option.bind_eq_bind, Option.bind_eq_some_iff, Prod.exists] at h
  obtain ⟨y, _, hy, mo, _, hmo, d, _, hd, ho, _, hho, mi, _, hmi, s, _, hs, h⟩ := h
  obtain ⟨year, c₁, _, rfl, hyear, hc₁, rfl⟩ := exists_of_upTo hy
  obtain ⟨month, c₂, _, rfl, hmonth, hc₂, rfl⟩ := exists_of_upTo hmo
  obtain ⟨day, t, _, rfl, hday, ht, rfl⟩ := exists_of_upTo hd
  obtain ⟨hour, c₃, _, rfl, hhour, hc₃, rfl⟩ := exists_of_upTo hho
  obtain ⟨minute, c₄, _, rfl, hminute, hc₄, rfl⟩ := exists_of_upTo hmi
  obtain ⟨second, z, after, rfl, hsecond, hz, rfl⟩ := exists_of_upTo hs
  obtain rfl : c₁ = '-' := by simpa using eq_of_upperMarks hc₁
  obtain rfl : c₂ = '-' := by simpa using eq_of_upperMarks hc₂
  obtain rfl : c₃ = ':' := by simpa using eq_of_upperMarks hc₃
  obtain rfl : c₄ = ':' := by simpa using eq_of_upperMarks hc₄
  have ht : t = 'T' ∨ t = 't' := by simpa using eq_of_upperMarks ht
  have hz : z = 'Z' ∨ z = 'z' := by simpa using eq_of_upperMarks hz
  split at h
  · rename_i hafter
    obtain rfl : after = [] := by simpa [upperMarks] using hafter
    obtain ⟨date, hdate, h⟩ := Option.bind_eq_some_iff.1 h
    obtain ⟨time, htime, h⟩ := Option.bind_eq_some_iff.1 h
    cases h
    obtain ⟨rfl, rfl, rfl⟩ := Date.of?_eq_some_iff.1 hdate
    obtain ⟨rfl, rfl, rfl, -⟩ := parts_of_of? htime
    exact .mk (denotes_upperMarks.1 (denotes_of_year? hyear))
      (denotes_upperMarks.1 (denotes_of_month? hmonth))
      (denotesDay_of_upperMarks (denotesDay_of_day? hday)) ht
        (denotes_upperMarks.1 (denotes_of_hour? hhour))
      (denotes_upperMarks.1 (denotes_of_sixtieth? hminute))
        (denotes_upperMarks.1 (denotes_of_sixtieth? hsecond)) hz
  · cases h

/-! ## What is spelled, is clear -/

/-- The characters of a part: digits, and the space that may stand before a day. -/
def inPart (c : Char) : Bool := isDigit c || c == ' '

theorem inPart_of_denotes (h : Denotes cs n) : ∀ c ∈ cs, inPart c = true := by
  intro c hc
  rw [inPart, h.isDigit c hc]
  rfl

theorem inPart_of_denotesDay (h : DenotesDay cs n) : ∀ c ∈ cs, inPart c = true := by
  cases h with
  | plain h => exact inPart_of_denotes h
  | spaced h => exact List.forall_mem_cons.2 ⟨rfl, inPart_of_denotes h⟩

theorem DenotesDay.unique (h : DenotesDay cs n) (h' : DenotesDay cs k) : n = k := by
  have hspace : ∀ {row n}, ¬ Denotes (' ' :: row) n := fun h ↦ by
    have hdigit := h.isDigit ' ' List.mem_cons_self
    exact absurd hdigit (by decide)
  cases h with
  | plain h =>
    cases h' with
    | plain h' => exact h.unique h'
    | spaced => exact absurd h hspace
  | spaced h =>
    cases h' with
    | plain h' => exact absurd h' hspace
    | spaced h' => exact h.unique h'

/-- A text spells the parts of one moment at most. -/
theorem Spells.unique (h : Spells cs p) (h' : Spells cs q) : p = q := by
  generalize hcs : cs = cs' at h'
  obtain ⟨hyear, hmonth, hday, ht, hhour, hminute, hsecond, hz⟩ := h
  obtain ⟨hyear', hmonth', hday', ht', hhour', hminute', hsecond', hz'⟩ := h'
  have hletter : ∀ {c}, c = 'T' ∨ c = 't' → inPart c = false := by
    rintro c (rfl | rfl) <;> decide
  have hend : ∀ {c}, c = 'Z' ∨ c = 'z' → inPart c = false := by
    rintro c (rfl | rfl) <;> decide
  obtain ⟨rfl, hcs₁⟩ := append_cons_inj (inPart_of_denotes hyear) (inPart_of_denotes hyear') rfl rfl
    hcs
  obtain ⟨rfl, hcs₂⟩ := append_cons_inj (inPart_of_denotes hmonth) (inPart_of_denotes hmonth') rfl
    rfl hcs₁
  obtain ⟨rfl, hcs₃⟩ :=
    append_cons_inj (inPart_of_denotesDay hday) (inPart_of_denotesDay hday') (hletter ht)
      (hletter ht') hcs₂
  obtain ⟨rfl, hcs₄⟩ := append_cons_inj (inPart_of_denotes hhour) (inPart_of_denotes hhour') rfl rfl
    hcs₃
  obtain ⟨rfl, hcs₅⟩ := append_cons_inj (inPart_of_denotes hminute) (inPart_of_denotes hminute') rfl
    rfl hcs₄
  obtain ⟨rfl, -⟩ := append_cons_inj (inPart_of_denotes hsecond) (inPart_of_denotes hsecond')
    (hend hz) (hend hz') hcs₅
  obtain ⟨y, mo, d, ho, mi, s⟩ := p
  obtain ⟨y', mo', d', ho', mi', s'⟩ := q
  simp only [Parts.mk.injEq]
  exact ⟨hyear.unique hyear', hmonth.unique hmonth', hday.unique hday', hhour.unique hhour',
    hminute.unique hminute', hsecond.unique hsecond'⟩

/-- A timestamp begins with a digit and ends with a letter, so white space around it is none of
it. -/
theorem Spells.trim_eq {core : List Char} (h : Spells core p) (hcs : Surrounds core cs) :
    trim cs = core := by
  obtain ⟨hyear, -, -, -, -, -, -, hz⟩ := h
  rename_i year _ _ _ _ _ _ z
  refine hcs.trim_eq (fun c hc ↦ ?_) fun c hc ↦ ?_
  · rw [List.head?_append_of_ne_nil _ hyear.ne_nil] at hc
    exact isBlank_of_digit? (hyear.isDigit c (List.mem_of_mem_head? hc))
  · obtain rfl : z = c := by simpa [List.getLast?_cons] using hc
    rcases hz with rfl | rfl <;> rfl

end Timestamp

/-! ## Main statement -/

namespace Conversion

open Timestamp

def badTimestamp (text : String) : Fault := .unreadable text "datetime" (some .badText)

/-- Conversion to a moment is reading without the blanks around it. -/
theorem convert_moment (text : String) : convert (.base .moment) text =
    match Timestamp.read (trim text.toList) with
    | some m => .ok (.moment m)
    | none => .error (badTimestamp text) := by
  rw [convert, convertBy_of_kind? (k := .timestamp) rfl, convertAsBy, readAs]
  cases Timestamp.read (trim text.toList) with
  | some m => rfl
  | none => rfl

/-- A text that converts to a moment spells the parts of it, up to white space around it, and the
moment is one of universal time, to the second; a text that spells parts of which there is no moment
is refused. Every moment that is written in full, with white space around it or none, is what the
text converts to. -/
theorem moments_read_by_calendar :
    (∀ text v, convert (.base .moment) text = .ok v → ∃ m core, v = .moment m ∧ IsUtcSecond m ∧
      Surrounds core text.toList ∧ Spells core (parts m) ∧ (parts m).Real) ∧
    (∀ text core p, Surrounds core text.toList → Spells core p → ¬ p.Real →
      convert (.base .moment) text = .error (badTimestamp text)) ∧
    (∀ text fault, convert (.base .moment) text = .error fault → fault = badTimestamp text) ∧
    ∀ p : Parts, p.Real → p.write.length = 20 ∧ ∀ text : String, Surrounds p.write text.toList →
      ∃ m, convert (.base .moment) text = .ok (.moment m) ∧ IsUtcSecond m ∧ parts m = p := by
  refine ⟨fun text v hv ↦ ?_, fun text core p hcore hspells hreal ↦ ?_, fun text fault hfault ↦ ?_,
    fun p hreal ↦ ?_⟩
  · rw [convert_moment] at hv
    split at hv
    · rename_i m hm
      cases hv
      exact ⟨m, _, rfl, isUtcSecond_of_read hm, surrounds_trim _, spells_of_read hm, real_parts m⟩
    · cases hv
  · rw [convert_moment, hspells.trim_eq hcore]
    split
    · rename_i m hm
      have hparts : parts m = p := (spells_of_read hm).unique hspells
      exact absurd (hparts ▸ real_parts m) hreal
    · rfl
  · rw [convert_moment] at hfault
    split at hfault <;> cases hfault
    rfl
  · obtain ⟨m, hutc, rfl⟩ := hreal.exists_moment
    refine ⟨hreal.length_write, fun text htext ↦ ⟨m, ?_, hutc, rfl⟩⟩
    have hread := read_write hutc
    rw [convert_moment, (spells_of_read hread).trim_eq htext, hread]

/-- A leap day in small letters and in digits of two scripts, with white space around it. -/
def looseLeapDay : String := "\t\u0662\u0660\u06624-2-29t3:04:\u0665z\u2003"

def missingLeapDay : String := "2023-02-29T00:00:00Z"

theorem moments_read_by_calendar_leapDays :
    (∃ m core, convert (.base .moment) looseLeapDay = .ok (.moment m) ∧ IsUtcSecond m ∧
      Surrounds core looseLeapDay.toList ∧ Spells core (parts m) ∧
        parts m = ⟨2024, 2, 29, 3, 4, 5⟩) ∧
    convert (.base .moment) missingLeapDay = .error (badTimestamp missingLeapDay) ∧
    (∃ fault, convert (.base .moment) "tomorrow" = .error fault ∧ fault = badTimestamp "tomorrow") ∧
    ∃ m, convert (.base .moment) "\n0001-01-01T00:00:00Z " = .ok (.moment m) ∧ IsUtcSecond m ∧
      parts m = ⟨1, 1, 1, 0, 0, 0⟩ := by
  obtain ⟨hsound, hrefused, hfault, hfull⟩ := moments_read_by_calendar
  refine ⟨?_, ?_, ?_, ?_⟩
  · have hv : convert (.base .moment) looseLeapDay =
        .ok (.moment ⟨⟨2024, 2, 29, by decide⟩, ⟨3, 4, 5, 0, by decide⟩, some .utc⟩) :=
      Outcome.eq_ok_of_toOption (by decide +kernel)
    obtain ⟨m, core, hm, hutc, hcore, hspells, -⟩ := hsound _ _ hv
    obtain rfl := Value.moment.inj hm
    exact ⟨_, core, hv, hutc, hcore, hspells, rfl⟩
  · have hspells : Spells missingLeapDay.toList ⟨2023, 2, 29, 0, 0, 0⟩ := by
      have hrow : ∀ cs n, cs.isEmpty = false ∧ (digits? cs).map ofDigits = some n → Denotes cs n :=
        fun cs n h ↦ ⟨by simpa using h.1, h.2⟩
      exact .mk (hrow "2023".toList _ (by decide)) (hrow "02".toList _ (by decide))
        (.plain (hrow "29".toList _ (by decide)))
        (.inl rfl) (hrow "00".toList _ (by decide)) (hrow "00".toList _ (by decide))
          (hrow "00".toList _ (by decide)) (.inl rfl)
    exact hrefused _ _ _ (surrounds_self _) hspells fun h ↦ absurd (h.isDay.leap rfl rfl).1
      (by decide)
  · have hnone : Timestamp.read (trim "tomorrow".toList) = none := by decide
    have hbad : convert (.base .moment) "tomorrow" = .error (badTimestamp "tomorrow") := by
      rw [convert_moment, hnone]
    exact ⟨_, hbad, hfault _ _ hbad⟩
  · have hreal : Parts.Real ⟨1, 1, 1, 0, 0, 0⟩ :=
      ⟨dateExists_iff.1 (by decide), by decide, by decide, by decide⟩
    exact (hfull _ hreal).2 _ ⟨['\n'], [' '], by simp [isBlank], by simp [isBlank], by decide⟩

end Conversion

end TypedSearch
