import TypedSearch.Query.Literal
import TypedSearch.Proofs.Calendar.Reading

/-!
# Moments read back

The writer does not fill a year up, and the reader wants four digits of it. So a moment of universal
time, to the second, is read back from what is written of it if its year has four digits, and what
is written of an earlier one is refused (`Conversion.written_moments_read`), although the reader
takes such moments from texts that have their zeros.
-/

namespace TypedSearch

open Text

namespace Timestamp

variable {year : List Char} {d : Date} {t : Time} {m : Moment}

/-- A year is read of four digits only. -/
theorem year?_of_length_ne (h : year.length ≠ 4) : year? year = none := by
  match year with
  | [_, _, _, _] => exact absurd rfl h
  | [] | [_] | [_, _] | [_, _, _] | _ :: _ :: _ :: _ :: _ :: _ => rfl

/-- A part that is refused stops the reader at its mark. -/
theorem upTo_append_of_none {α : Type} {read? : List Char → Option α} {cs : List Char} {mark : Char}
    (hcs : read? cs = none) (hmark : mark ∉ cs) (rest : List Char) :
    upTo mark read? (cs ++ mark :: rest) = none := by
  rw [upTo, cut_append hmark]
  simp [hcs]

/-- A year below 1000 is written with fewer. -/
theorem length_decimalDigits_of_lt {y : Nat} (h : y < 1000) : (decimalDigits y).length ≤ 3 :=
  (Nat.length_toDigits_le_iff (by decide) (by decide)).2 h

/-- What is written of a moment before the year 1000 is no timestamp. -/
theorem read_layout_eq_none (h : d.year < 1000) : read (layout d t) = none := by
  have hyear : year? (decimalDigits d.year) = none := by
    have hlength := length_decimalDigits_of_lt h
    exact year?_of_length_ne (by omega)
  have hmark : '-' ∉ decimalDigits d.year :=
    fun hmem ↦ ne_of_isDigit (allDigits_decimalDigits _ _ hmem) rfl rfl
  rw [layout_eq, read, upperMarks_layoutBehind (allDigits_decimalDigits _), layoutBehind,
    upTo_append_of_none hyear hmark]
  rfl

end Timestamp

namespace Conversion

open Timestamp

/-- What is written of a moment, and what becomes of it when it is read. -/
theorem convert_literal_moment {m : Moment} (h : IsUtcSecond m) :
    ∃ text, (Value.moment m).literal = .ok text ∧
    (1000 ≤ m.date.year → convert (.base .moment) text = .ok (.moment m)) ∧
    (m.date.year < 1000 → convert (.base .moment) text = .error (badTimestamp text)) := by
  obtain ⟨hoffset, hmicro⟩ := h
  have htrim : trim (layout m.date m.time) = layout m.date m.time := trim_eq_self fun _ ↦
    isBlank_of_mem_layout
  refine ⟨.ofList (layout m.date m.time), ?_, fun hyear ↦ ?_, fun hyear ↦ ?_⟩
  · rw [Value.literal, write?_of_utc hoffset]
  · rw [convert_moment, String.toList_ofList, htrim, read_layout hyear hmicro, ← hoffset]
  · rw [convert_moment, String.toList_ofList, htrim, read_layout_eq_none hyear]

/-- A moment of universal time, to the second, is written, and so is whatever was read from a text,
as that is such a moment too. What is written is read as the same moment from the year 1000 on, and
refused before. -/
theorem written_moments_read {v : Value}
    (h : (∃ m, IsUtcSecond m ∧ v = .moment m) ∨ ∃ text, convert (.base .moment) text = .ok v) :
    ∃ m written, v = .moment m ∧ IsUtcSecond m ∧ v.literal = .ok written ∧
      (1000 ≤ m.date.year → convert (.base .moment) written = .ok v) ∧
      (m.date.year < 1000 → convert (.base .moment) written = .error (badTimestamp written)) := by
  have hutc : ∃ m, IsUtcSecond m ∧ v = .moment m := by
    obtain hutc | ⟨text, hv⟩ := h
    · exact hutc
    · rw [convert_moment] at hv
      split at hv
      · rename_i m hm
        cases hv
        exact ⟨m, isUtcSecond_of_read hm, rfl⟩
      · cases hv
  obtain ⟨m, hm, rfl⟩ := hutc
  obtain ⟨written, hwritten, hread⟩ := convert_literal_moment hm
  exact ⟨m, written, rfl, hm, hwritten, hread⟩

/-- The last second before the years have four digits. -/
def lastOfThreeDigits : Moment := ⟨⟨999, 12, 31, by decide⟩, ⟨23, 59, 59, 0, by decide⟩, some .utc⟩

def firstOfFourDigits : Moment := ⟨⟨1000, 1, 1, by decide⟩, ⟨0, 0, 0, 0, by decide⟩, some .utc⟩

theorem written_moments_read_turn :
    (∃ text, (Value.moment firstOfFourDigits).literal = .ok text ∧
      convert (.base .moment) text = .ok (.moment firstOfFourDigits)) ∧
    ∃ written, (Value.moment lastOfThreeDigits).literal = .ok written ∧
      convert (.base .moment) written = .error (badTimestamp written) := by
  have hread : convert (.base .moment) "0999-12-31T23:59:59Z" = .ok (.moment lastOfThreeDigits) :=
    Outcome.eq_ok_of_toOption (by decide +kernel)
  obtain ⟨m, text, hm, -, htext, hkept, -⟩ :=
    written_moments_read (v := .moment firstOfFourDigits) (.inl ⟨_, ⟨rfl, rfl⟩, rfl⟩)
  obtain ⟨m', written, hm', -, hwritten, -, hrefused⟩ := written_moments_read (.inr ⟨_, hread⟩)
  obtain rfl := Value.moment.inj hm
  obtain rfl := Value.moment.inj hm'
  exact ⟨⟨text, htext, hkept (by decide)⟩, written, hwritten, hrefused (by decide)⟩

/-- A moment that was read from a text is not read back from what is written of it. -/
theorem written_moment_refused : IsUtcSecond lastOfThreeDigits ∧
    convert (.base .moment) "0999-12-31T23:59:59Z" = .ok (.moment lastOfThreeDigits) ∧
    (Value.moment lastOfThreeDigits).literal = .ok "999-12-31T23:59:59Z" ∧
    convert (.base .moment) "999-12-31T23:59:59Z" =
      .error (badTimestamp "999-12-31T23:59:59Z") := by
  have hnone : Timestamp.read (trim "999-12-31T23:59:59Z".toList) = none := by decide +kernel
  refine ⟨⟨rfl, rfl⟩, Outcome.eq_ok_of_toOption (by decide +kernel),
    Outcome.eq_ok_of_toOption (by decide +kernel), ?_⟩
  rw [convert_moment, hnone]

end Conversion

end TypedSearch
