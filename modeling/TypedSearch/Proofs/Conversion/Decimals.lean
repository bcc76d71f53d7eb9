import TypedSearch.Proofs.Conversion.Literal
import Mathlib.Tactic.NormNum

/-!
# Decimals read back

A finite decimal is written in digits, with as many of them behind a point as its exponent asks for
and never with a power of ten (`Decimal.isPlain_positional`). The text is read as the same number,
in the same form unless there were zeros to spell out (`Conversion.written_decimals_read`).
-/

namespace TypedSearch

open Text

namespace Decimal

/-- Is the text a number in digits, with a minus or nothing in front and so many of the digits
behind a point? There is no point without digits behind it, and there is a digit before it. -/
inductive IsPlain (negative : Bool) : Nat → List Char → Prop
  | whole {ws : List Char} (digits : AllDigits ws) (ne_nil : ws ≠ []) :
      IsPlain negative 0 (signText negative ++ ws)
  | pointed {ws fs : List Char} (whole : AllDigits ws) (whole_ne_nil : ws ≠ [])
      (fraction : AllDigits fs) (fraction_ne_nil : fs ≠ []) :
      IsPlain negative fs.length (signText negative ++ (ws ++ '.' :: fs))

/-- No power of ten is written, whatever the exponent. -/
theorem isPlain_positional (s : Bool) (c : Nat) (e : Int) :
    IsPlain s (-e).toNat (positional (.finite s c e)) := by
  rcases le_or_gt 0 e with he | he
  · obtain ⟨ds, hp, hds, hne, -⟩ := positional_of_nonneg (s := s) (c := c) he
    have hplaces : (-e).toNat = 0 := by omega
    rw [hp, hplaces]
    exact .whole hds hne
  · obtain ⟨ws, fs, hp, hws, hfs, hne, hlen, -⟩ := positional_of_neg (s := s) (c := c) he
    have hplaces : (-e).toNat = fs.length := by omega
    have hfne : fs ≠ [] := List.ne_nil_of_length_pos (by omega)
    rw [hp, hplaces]
    exact .pointed hws hne hfs hfne

end Decimal

namespace Conversion

open Decimal

/-- Conversion to a decimal is reading a numeral without the blanks around it. -/
theorem convert_decimal_eq_ok_iff {text : String} {d : Decimal} :
    convert (.base .decimal) text = .ok (.decimal d) ↔ Decimal.read (trim text.toList) =
      some d := by
  rw [convert, convertBy_of_kind? (k := .decimal) rfl, convertAsBy, Outcome.mapError_eq_ok, readAs]
  cases Decimal.read (trim text.toList) <;> simp [orRefuse]

/-- A finite decimal is written in digits, with a minus if it has one, and with as many digits
behind a point as its exponent is below zero. If it lies in the range that decimals are kept in, as
every one that is read does, the text is read as the same number with the same sign; and in the same
form, unless its exponent is above zero. -/
theorem written_decimals_read (s : Bool) (c : Nat) (e : Int) :
    (∃ text, (Value.decimal (.finite s c e)).literal = .ok text ∧ IsPlain s (-e).toNat text.toList ∧
      (inRange c e = true → ∃ c' e', convert (.base .decimal) text =
        .ok (.decimal (.finite s c' e')) ∧ (c' : ℚ) * 10 ^ e' = c * 10 ^ e ∧
          (e ≤ 0 → c' = c ∧ e' = e))) ∧
    ∀ text, convert (.base .decimal) text = .ok (.decimal (.finite s c e)) →
      inRange c e = true := by
  refine ⟨⟨.ofList (positional (.finite s c e)), rfl, ?_, fun hrange ↦ ?_⟩, fun text h ↦ ?_⟩
  · rw [String.toList_ofList]
    exact isPlain_positional s c e
  · refine ⟨c * 10 ^ e.toNat, min e 0, ?_, (mul_tens_eq c e).symm, fun he ↦ ⟨?_, min_eq_left he⟩⟩
    · rw [convert_decimal_eq_ok_iff, String.toList_ofList, read_trim_positional hrange]
    · rw [Int.toNat_of_nonpos he, Nat.pow_zero, Nat.mul_one]
  · exact inRange_of_read (convert_decimal_eq_ok_iff.1 h)

/-- A negative zero keeps its sign and its places, and the zeros of a power of ten are spelled
out. -/
theorem written_decimals_read_zeros :
    (∃ text, (Value.decimal (.finite true 0 (-3))).literal = .ok text ∧ IsPlain true 3 text.toList ∧
      convert (.base .decimal) text = .ok (.decimal (.finite true 0 (-3)))) ∧
    ∃ text, (Value.decimal (.finite false 15 2)).literal = .ok text ∧ IsPlain false 0 text.toList ∧
      ∃ c e, convert (.base .decimal) text = .ok (.decimal (.finite false c e)) ∧
        (c : ℚ) * 10 ^ e = 1500 := by
  obtain ⟨⟨text, htext, hplain, hread⟩, -⟩ := written_decimals_read true 0 (-3)
  obtain ⟨_, _, hconvert, -, hform⟩ := hread (by decide)
  obtain ⟨rfl, rfl⟩ := hform (by decide)
  obtain ⟨⟨text', htext', hplain', hread'⟩, -⟩ := written_decimals_read false 15 2
  obtain ⟨c, e, hconvert', hvalue, -⟩ := hread' (by decide)
  refine ⟨⟨text, htext, hplain, hconvert⟩, text', htext', hplain', c, e, hconvert', ?_⟩
  rw [hvalue]
  norm_num

end Conversion

end TypedSearch
