import TypedSearch.Proofs.Number.Numeral
import Mathlib.Tactic.Ring

/-!
# Numbers read back

An integer that is short enough to be written is read back from what was written. A finite decimal
is written without a power of ten and reads back as the same number, with its zeros spelled out: the
exponent is never above zero afterwards.
-/

namespace TypedSearch

open Text Decimal

variable {cs ds : List Char} {s : Bool}

/-! ## Signs -/

namespace Numeral

/-- A sign is taken off what starts with a digit. -/
theorem takeSign_signText (h : AllDigits cs) (hne : cs ≠ []) (rest : List Char) :
    takeSign (signText s ++ (cs ++ rest)) = (s, cs ++ rest) := by
  cases s with
  | true => rfl
  | false =>
    obtain ⟨c, ds, rfl⟩ := List.exists_cons_of_ne_nil hne
    exact takeSign_of_isDigit (h c List.mem_cons_self) _

/-- A sign in front of digits is read with them. -/
theorem signedDigits?_signText (h : AllDigits cs) (hne : cs ≠ []) :
    signedDigits? (signText s ++ cs) = some (s, cs.map digitValue) := by
  have hs := takeSign_signText (s := s) h hne []
  rw [List.append_nil] at hs
  obtain ⟨c, ds, rfl⟩ := List.exists_cons_of_ne_nil hne
  rw [signedDigits?, hs]
  simp [takeDigits_of_allDigits h]

theorem signed_natAbs (n : Int) : signed (decide (n < 0)) n.natAbs = n := by
  by_cases h : n < 0
  · rw [decide_eq_true h, signed, if_pos rfl]
    omega
  · rw [decide_eq_false h, signed, if_neg Bool.false_ne_true]
    omega

/-! ## Digits with or without a point -/

/-- Digits behind a sign are a numeral without a point. -/
theorem read_of_allDigits (h : AllDigits cs) (hne : cs ≠ []) :
    read (signText s ++ cs) = some ⟨s, cs.map digitValue, [], 0⟩ := by
  have hs := takeSign_signText (s := s) h hne []
  rw [List.append_nil] at hs
  simp [read, hs, unsigned?, takeDigits_of_allDigits h, hne, exponent?]

/-- Digits on both sides of a point are one with a point. -/
theorem read_pointed (hc : AllDigits cs) (hd : AllDigits ds) (hne : cs ≠ []) :
    read (signText s ++ (cs ++ '.' :: ds)) = some ⟨s, cs.map digitValue, ds.map digitValue, 0⟩ := by
  have hw : takeDigits (cs ++ '.' :: ds) = (cs.map digitValue, '.' :: ds) :=
    takeDigits_append hc (by simp; decide)
  simp [read, takeSign_signText hc hne, unsigned?, hw, takeDigits_of_allDigits hd, hne, exponent?]

end Numeral

/-! ## Texts of numbers -/

/-- A character of a written number: an ASCII digit, a minus or a point. -/
def IsNumeric (c : Char) : Prop := c.isDigit = true ∨ c = '-' ∨ c = '.'

theorem IsNumeric.isBlank {c : Char} (h : IsNumeric c) : isBlank c = false := by
  rcases h with h | rfl | rfl
  · exact isBlank_of_isDigit h
  · rfl
  · rfl

theorem IsNumeric.ne_underscore {c : Char} (h : IsNumeric c) : c ≠ '_' := by
  rcases h with h | rfl | rfl
  · exact ne_of_isDigit h rfl
  · decide
  · decide

theorem isNumeric_of_mem_signText {c : Char} (h : c ∈ signText s) : IsNumeric c := by
  cases s with
  | true => exact .inr (.inl (List.mem_singleton.1 h))
  | false => cases h

namespace Whole

theorem write_eq (n : Int) : write n = signText (decide (n < 0)) ++ decimalDigits n.natAbs := by
  cases n with
  | ofNat n => simp [write, signText]
  | negSucc n => simp [write, signText, Int.negSucc_lt_zero]

theorem isNumeric_of_mem_write {n : Int} {c : Char} (h : c ∈ write n) : IsNumeric c := by
  rw [write_eq] at h
  rcases List.mem_append.1 h with h | h
  · exact isNumeric_of_mem_signText h
  · exact .inl (allDigits_decimalDigits _ c h)

/-- What is written of an integer reads back. -/
theorem read_trim_write {n : Int} (h : Writable n) : read (trim (write n)) = some n := by
  have hw : trim (write n) = write n := trim_eq_self fun c hc ↦ (isNumeric_of_mem_write hc).isBlank
  have hu : Numeral.ungroup (write n) = some (write n) :=
    Numeral.ungroup_eq_self fun c hc ↦ (isNumeric_of_mem_write hc).ne_underscore
  have hd : Numeral.signedDigits? (write n) =
      some (decide (n < 0), (decimalDigits n.natAbs).map digitValue) := by
    rw [write_eq]
    exact Numeral.signedDigits?_signText (allDigits_decimalDigits _) (decimalDigits_ne_nil _)
  have hlen : ((decimalDigits n.natAbs).map digitValue).length ≤ maxDigits := by
    rw [List.length_map]
    exact h
  simp only [read, hw, hu, hd, Option.bind_eq_bind, Option.bind_some, if_pos hlen,
    ofDigits_decimalDigits, Numeral.signed_natAbs]

/-- What is read can be written: it has no more digits than the text. -/
theorem writable_of_read {n : Int} (h : read cs = some n) : Writable n := by
  simp only [read, Option.bind_eq_bind, Option.bind_eq_some_iff] at h
  obtain ⟨ungrouped, -, ⟨negative, ds⟩, hds, h⟩ := h
  split at h
  · rename_i hlength
    cases h
    obtain ⟨hne, hlt⟩ := Numeral.lt_of_mem_signedDigits? hds
    have habs : (Numeral.signed negative (ofDigits ds)).natAbs = ofDigits ds := by
      cases negative <;> simp [Numeral.signed]
    rw [Writable, habs]
    have hdigits := (Nat.length_toDigits_le_iff (by decide) (List.length_pos_iff.2 hne)).2
      (ofDigits_lt hlt)
    exact hdigits.trans hlength
  · cases h

end Whole

namespace Decimal

variable {c : Nat} {e : Int}

/-- Multiplying by a power of ten puts zeros behind the digits. -/
theorem decimalDigits_mul_tens (hc : 0 < c) (k : Nat) :
    decimalDigits (c * 10 ^ k) = decimalDigits c ++ List.replicate k '0' := by
  induction k with
  | zero => simp
  | succ k ih =>
    have hpos : 0 < c * 10 ^ k := Nat.mul_pos hc (Nat.pow_pos (by decide))
    have h := Nat.toDigits_append_toDigits (b := 10) (n := c * 10 ^ k) (d := 0) (by decide) hpos
      (by decide)
    rw [List.replicate_succ', ← List.append_assoc, ← ih, decimalDigits, decimalDigits,
      show c * 10 ^ (k + 1) = 10 * (c * 10 ^ k) + 0 by ring, ← h]
    rfl

/-- Spelling the zeros of a power of ten out leaves a number in range. -/
theorem inRange_mul_tens (hc : 0 < c) (h : inRange c e = true) (he : 0 ≤ e) :
    inRange (c * 10 ^ e.toNat) 0 = true := by
  have hne : c * 10 ^ e.toNat ≠ 0 := (Nat.mul_pos hc (Nat.pow_pos (by decide))).ne'
  simp only [inRange, hc.ne', hne, if_false, Bool.and_eq_true, decide_eq_true_eq, adjusted,
    decimalDigits_mul_tens hc, List.length_append, List.length_replicate] at h ⊢
  refine ⟨by decide, ?_⟩
  omega

/-- The digits before and behind the point are those of the number, and there is one before it. -/
theorem pointed_eq {places : Nat} (h : places ≠ 0) (c : Nat) : ∃ ws fs : List Char,
    pointed c places = ws ++ '.' :: fs ∧ ws ++ fs = padded (places + 1) c ∧ ws ≠ [] ∧
    fs.length = places := by
  have hlen := length_padded (places + 1) c
  refine ⟨_, _, if_neg h, List.take_append_drop _ _, ?_, ?_⟩
  · apply List.ne_nil_of_length_pos
    rw [List.length_take]
    omega
  · rw [List.length_drop]
    omega

/-- What is written of a number whose power of ten is spelled out in zeros. -/
theorem positional_of_nonneg (he : 0 ≤ e) : ∃ ds, positional (.finite s c e) = signText s ++ ds ∧
    AllDigits ds ∧ ds ≠ [] ∧ ofDigits (ds.map digitValue) = c * 10 ^ e.toNat := by
  rw [positional, if_pos he]
  split
  · rename_i hc
    refine ⟨['0'], rfl, allDigits_replicate_zero 1, by simp, ?_⟩
    rw [hc, Nat.zero_mul]
    rfl
  · refine ⟨_, rfl, (allDigits_decimalDigits c).append (allDigits_replicate_zero _), ?_,
      ofDigits_decimalDigits_zeros c _⟩
    simp [decimalDigits_ne_nil]

/-- What is written of a number with digits behind the point. -/
theorem positional_of_neg (he : e < 0) :
    ∃ ws fs, positional (.finite s c e) = signText s ++ (ws ++ '.' :: fs) ∧
    AllDigits ws ∧ AllDigits fs ∧ ws ≠ [] ∧ fs.length = e.natAbs ∧
      ofDigits ((ws ++ fs).map digitValue) = c := by
  have hplaces : e.natAbs ≠ 0 := by omega
  obtain ⟨ws, fs, hp, hall, hne, hlen⟩ := pointed_eq hplaces c
  have hdigits : AllDigits (ws ++ fs) := hall ▸ allDigits_padded _ _
  refine ⟨ws, fs, ?_, fun x hx ↦ hdigits x (List.mem_append_left _ hx),
    fun x hx ↦ hdigits x (List.mem_append_right _ hx), hne, hlen, ?_⟩
  · rw [positional, if_neg (by omega), hp]
  · rw [hall, ofDigits_padded]

theorem isNumeric_of_mem_positional {x : Char} (h : x ∈ positional (.finite s c e)) :
    IsNumeric x := by
  rcases le_or_gt 0 e with he | he
  · obtain ⟨ds, hp, hds, -, -⟩ := positional_of_nonneg (s := s) (c := c) he
    rw [hp] at h
    rcases List.mem_append.1 h with h | h
    · exact isNumeric_of_mem_signText h
    · exact .inl (hds x h)
  · obtain ⟨ws, fs, hp, hws, hfs, -, -, -⟩ := positional_of_neg (s := s) (c := c) he
    rw [hp, List.mem_append, List.mem_append, List.mem_cons] at h
    rcases h with h | h | h | h
    · exact isNumeric_of_mem_signText h
    · exact .inl (hws x h)
    · exact .inr (.inr h)
    · exact .inl (hfs x h)

/-- A written decimal is a numeral with the number's digits, the zeros of a power of ten among
them. -/
theorem exists_read_positional (s : Bool) (c : Nat) (e : Int) : ∃ x,
    Numeral.read (positional (.finite s c e)) = some x ∧ x.negative = s ∧
      x.coefficient = c * 10 ^ e.toNat ∧ x.scale = min e 0 := by
  rcases le_or_gt 0 e with he | he
  · obtain ⟨ds, hp, hds, hne, hvalue⟩ := positional_of_nonneg (s := s) (c := c) he
    refine ⟨_, hp ▸ Numeral.read_of_allDigits hds hne, rfl, ?_, ?_⟩
    · rw [Numeral.coefficient, List.append_nil, hvalue]
    · rw [Numeral.scale, min_eq_right he]
      rfl
  · obtain ⟨ws, fs, hp, hws, hfs, hne, hlen, hvalue⟩ := positional_of_neg (s := s) (c := c) he
    refine ⟨_, hp ▸ Numeral.read_pointed hws hfs hne, rfl, ?_, ?_⟩
    · rw [Numeral.coefficient, ← List.map_append, hvalue, Int.toNat_of_nonpos he.le, Nat.pow_zero,
        Nat.mul_one]
    · rw [Numeral.scale, List.length_map, hlen, min_eq_left he.le]
      change 0 - (e.natAbs : Int) = e
      omega

/-- A finite decimal reads back with its sign, its zeros spelled out, and no exponent above zero. -/
theorem read_trim_positional (h : inRange c e = true) :
    read (trim (positional (.finite s c e))) = some (.finite s (c * 10 ^ e.toNat) (min e 0)) := by
  have ht : trim (positional (.finite s c e)) = positional (.finite s c e) :=
    trim_eq_self fun x hx ↦ (isNumeric_of_mem_positional hx).isBlank
  have hf : (positional (.finite s c e)).filter (· != '_') = positional (.finite s c e) :=
    List.filter_eq_self.2 fun x hx ↦ bne_iff_ne.2 (isNumeric_of_mem_positional hx).ne_underscore
  obtain ⟨x, hread, hsign, hvalue, hscale⟩ := exists_read_positional s c e
  -- zeros that are spelled out move the leading digit nowhere, so the number stays in range
  have hrange : inRange (c * 10 ^ e.toNat) (min e 0) = true := by
    rcases lt_or_ge e 0 with he | he
    · rw [min_eq_left he.le, Int.toNat_of_nonpos he.le, Nat.pow_zero, Nat.mul_one]
      exact h
    · rw [min_eq_right he]
      rcases Nat.eq_zero_or_pos c with rfl | hc
      · rw [Nat.zero_mul]
        rfl
      · exact inRange_mul_tens hc h he
  rw [ht, read]
  simp only [hf, hread, ofNumeral, hsign, hvalue, hscale, hrange, if_true]

/-- What is read lies in the range that decimals are kept in. -/
theorem inRange_of_read (h : read cs = some (.finite s c e)) : inRange c e = true := by
  unfold read at h
  dsimp only at h
  split at h
  · unfold ofNumeral at h
    split at h
    · rename_i hrange
      cases h
      exact hrange
    · cases h
  · unfold special? at h
    split at h
    · cases h
    · cases h
    · obtain ⟨_, -, h⟩ := Option.map_eq_some_iff.1 h
      cases h
    · obtain ⟨_, -, h⟩ := Option.map_eq_some_iff.1 h
      cases h
    · cases h

end Decimal

end TypedSearch
