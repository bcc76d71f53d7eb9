import TypedSearch.Number.Ratio
import TypedSearch.Proofs.Number.RoundTrip
import Mathlib.Data.Rat.Lemmas

/-!
# Ratios read back

A ratio whose two numbers are short enough to be written is read back from what was written of it,
whether that is a quotient or, for a denominator of one, a whole number.
-/

namespace TypedSearch.Ratio

open Text Decimal

variable {q : Rat}

/-- A ratio is written as digits with a sign, and a slash and more digits if they are needed. -/
theorem write_eq (q : Rat) : write q = signText (decide (q.num < 0)) ++
    (decimalDigits q.num.natAbs ++ if q.den = 1 then [] else '/' :: decimalDigits q.den) := by
  rw [write, Whole.write_eq]
  split <;> simp

theorem isNumeric_or_eq_of_mem_write {c : Char} (h : c ∈ write q) : IsNumeric c ∨ c = '/' := by
  have hden : ∀ c ∈ decimalDigits q.den, IsNumeric c :=
    fun c hc ↦ .inl (allDigits_decimalDigits _ c hc)
  unfold write at h
  split at h
  · exact .inl (Whole.isNumeric_of_mem_write h)
  · simp only [List.mem_append, List.mem_cons] at h
    rcases h with h | h | h
    · exact .inl (Whole.isNumeric_of_mem_write h)
    · exact .inr h
    · exact .inl (hden c h)

/-- A written ratio has no blanks around it. -/
theorem trim_write (q : Rat) : trim (write q) = write q := by
  refine trim_eq_self fun c hc ↦ ?_
  rcases isNumeric_or_eq_of_mem_write hc with h | rfl
  · exact h.isBlank
  · decide

theorem ungroup_write (q : Rat) : Numeral.ungroup (write q) = some (write q) := by
  refine Numeral.ungroup_eq_self fun c hc ↦ ?_
  rcases isNumeric_or_eq_of_mem_write hc with h | rfl
  · exact h.ne_underscore
  · decide

theorem exists_map_digitValue (n : Nat) : ∃ d ds, (decimalDigits n).map digitValue = d :: ds :=
  List.exists_cons_of_ne_nil fun h ↦ decimalDigits_ne_nil n (List.map_eq_nil_iff.1 h)

/-- The digits of a writable number are few enough to be read. -/
theorem fits_map_digitValue {n : Nat} (h : Whole.Writable n) :
    fits ((decimalDigits n).map digitValue) = true := by
  rw [fits, List.length_map]
  exact decide_eq_true h

/-- What is written of a ratio reads back. -/
theorem read_write (h : Writable q) : read (write q) = .ok q := by
  obtain ⟨hnum, hden⟩ := h
  have hsign : Numeral.takeSign (write q) = (decide (q.num < 0),
      decimalDigits q.num.natAbs ++ if q.den = 1 then [] else '/' :: decimalDigits q.den) := by
    rw [write_eq]
    exact Numeral.takeSign_signText (allDigits_decimalDigits _) (decimalDigits_ne_nil _) _
  have hfits : fits ((decimalDigits q.num.natAbs).map digitValue) = true := fits_map_digitValue hnum
  obtain ⟨n, ns, hn⟩ := exists_map_digitValue q.num.natAbs
  have hvalue : Numeral.signed (decide (q.num < 0)) (ofDigits (n :: ns)) = q.num := by
    rw [← hn, ofDigits_decimalDigits, Numeral.signed_natAbs]
  rw [hn] at hfits
  generalize decide (q.num < 0) = negative at hsign hvalue
  unfold read
  simp only [trim_write, ungroup_write, hsign]
  by_cases hone : q.den = 1
  · have hdigits : Numeral.takeDigits (decimalDigits q.num.natAbs) = (n :: ns, []) := by
      rw [Numeral.takeDigits_of_allDigits (allDigits_decimalDigits _), hn]
    have hq : mkRat q.num 1 = q := by
      rw [← hone, Rat.mkRat_self]
    have hnone : fits [] = true := rfl
    simp [hone, hdigits, Numeral.unsigned?, Numeral.exponent?, ofNumeral, hfits, hnone,
      Numeral.coefficient, Numeral.scale, hvalue, hq]
  · obtain ⟨d, ds, hd⟩ := exists_map_digitValue q.den
    have hdigits : Numeral.takeDigits (decimalDigits q.num.natAbs ++ '/' :: decimalDigits q.den) =
        (n :: ns, '/' :: decimalDigits q.den) := by
      rw [Numeral.takeDigits_append (allDigits_decimalDigits _) (by simp; decide), hn]
    have hbelow : Numeral.takeDigits (decimalDigits q.den) = (d :: ds, []) := by
      rw [Numeral.takeDigits_of_allDigits (allDigits_decimalDigits _), hd]
    have hfitsDen : fits (d :: ds) = true := hd ▸ fits_map_digitValue (hden.resolve_left hone)
    have hdenValue : ofDigits (d :: ds) = q.den := hd ▸ ofDigits_decimalDigits q.den
    simp [hone, hdigits, hbelow, ofQuotient, hfits, hfitsDen, hdenValue, hvalue, Rat.mkRat_self]

end TypedSearch.Ratio
