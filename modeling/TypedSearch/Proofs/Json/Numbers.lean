import TypedSearch.Proofs.Json.Grammar
import TypedSearch.Proofs.Number.RoundTrip
import Mathlib.Data.List.DropRight

/-!
# Written numbers are JSON numbers

Integers and finite binary numbers are written the way JSON writes numbers. What it takes is that
the digits of a number do not begin with a zero: so `shortest` must find a number to write that is
none (`shortestFrom_ne_zero`), for which the place of the point must be right (`den_le_num_shift`).
-/

namespace TypedSearch

open Text

/-! ## Digits without a zero in front -/

namespace Text

variable {d : Char} {ds : List Char}

theorem exists_decimalDigits_eq_cons {n : Nat} (h : n ≠ 0) :
    ∃ d ds, decimalDigits n = d :: ds ∧ d ≠ '0' := by
  induction n using Nat.base_induction 10 (by decide) with
  | single m hm =>
    exact ⟨m.digitChar, [], Nat.toDigits_of_lt_base hm, fun hd ↦ h (Nat.digitChar_eq_zero.1 hd)⟩
  | digit m k hk hm ih =>
    obtain ⟨d, ds, hds, hd⟩ := ih (Nat.ne_of_gt hm)
    refine ⟨d, ds ++ decimalDigits k, ?_, hd⟩
    rw [decimalDigits, ← Nat.toDigits_append_toDigits (by decide) hm hk]
    exact congrArg (· ++ decimalDigits k) hds

theorem allDigits_stripEnd {p : Char → Bool} (h : AllDigits ds) : AllDigits (stripEnd p ds) :=
  fun c hc ↦ h c ((List.rdropWhile_prefix p ds).subset hc)

/-- The zeros at the end of digits do not reach up to the first one. -/
theorem exists_stripEnd_eq_cons (hd : d ≠ '0') :
    ∃ rest, stripEnd (· == '0') (d :: ds) = d :: rest := by
  have hprefix : stripEnd (· == '0') (d :: ds) <+: d :: ds := List.rdropWhile_prefix _ _
  have hne : stripEnd (· == '0') (d :: ds) ≠ [] := by
    intro hnil
    have hzeros := List.rdropWhile_eq_nil_iff.1 hnil d List.mem_cons_self
    exact hd (by simpa using hzeros)
  obtain ⟨c, rest, hrest⟩ := List.exists_cons_of_ne_nil hne
  rw [hrest] at hprefix ⊢
  obtain rfl : c = d := (List.cons_prefix_cons.1 hprefix).1
  exact ⟨rest, rfl⟩

end Text

namespace Json

/-- The digits of a number have no zero in front of others. -/
theorem isWhole_decimalDigits (n : Nat) : IsWhole (decimalDigits n) := by
  rcases eq_or_ne n 0 with rfl | h
  · exact .zero
  · obtain ⟨d, ds, hds, hd⟩ := exists_decimalDigits_eq_cons h
    rw [hds]
    exact .digits (hds ▸ allDigits_decimalDigits n) hd

theorem signText_mem (s : Bool) : Decimal.signText s ∈ [[], ['-']] := by
  cases s <;> decide

/-- A whole number is written as the grammar wants. -/
theorem isNumber_whole (n : Int) : IsNumber (Whole.write n) := by
  rw [Whole.write_eq]
  have hdigits : IsUnsigned (decimalDigits n.natAbs ++ ([] ++ [])) :=
    .intro (isWhole_decimalDigits _) .none .none
  simp only [List.append_nil] at hdigits
  exact .intro (signText_mem _) hdigits

end Json

/-! ## The digits of a binary number -/

namespace Binary64

variable {x : Fraction} {c : Cell} {p : Int}

/-- A fraction of one or more is not rounded to zero. -/
theorem roundDiv_ne_zero {num den : Nat} (hden : 0 < den) (h : den ≤ num) :
    roundDiv num den ≠ 0 := by
  have hone : 1 ≤ num / den := (Nat.le_div_iff_mul_le hden).2 (by omega)
  simp only [roundDiv]
  split_ifs <;> omega

/-- A zero is never found, unless the last grid has none but zero to offer. -/
theorem shortestFrom_ne_zero {fuel n : Nat}
    (h : roundDiv (x.shift (p - (n + fuel : Nat))).num (x.shift (p - (n + fuel : Nat))).den ≠ 0) :
    (shortestFrom x c p fuel n).1 ≠ 0 := by
  induction fuel generalizing n with
  | zero => exact h
  | succ fuel ih =>
    have hrest : (shortestFrom x c p fuel (n + 1)).1 ≠ 0 := ih (by rwa [Nat.add_right_comm n])
    rw [shortestFrom]
    generalize roundDiv (x.shift (p - n)).num (x.shift (p - n)).den = nearest
    generalize (x.shift (p - n)).num / (x.shift (p - n)).den = below
    generalize (if nearest = below then below + 1 else below) = other
    split_ifs with hnearest hother
    · exact bne_iff_ne.1 (Bool.and_eq_true_iff.1 hnearest).1
    · exact bne_iff_ne.1 (Bool.and_eq_true_iff.1 hother).1
    · exact hrest

/-- Ten is more than three doublings. -/
theorem twoTo_three_mul_le (n : Nat) : twoTo (3 * n) ≤ tenTo n :=
  calc twoTo (3 * n) = (2 ^ 3) ^ n := Nat.pow_mul ..
    _ ≤ tenTo n := Nat.pow_le_pow_left (by decide) n

theorem twoTo_le {m n : Nat} (h : m ≤ n) : twoTo m ≤ twoTo n := Nat.pow_le_pow_right (by decide) h

theorem tenTo_le {m n : Nat} (h : m ≤ n) : tenTo m ≤ tenTo n := Nat.pow_le_pow_right (by decide) h

/-- The zeros behind the point are counted up to the first digit, as far as the fuel lasts. -/
theorem leadingZeros_stops (x : Fraction) (fuel k : Nat) :
    x.den ≤ x.num * tenTo (leadingZeros x fuel k + 1) ∨ leadingZeros x fuel k = k + fuel := by
  induction fuel generalizing k with
  | zero => exact Or.inr rfl
  | succ fuel ih =>
    simp only [leadingZeros]
    split
    · rename_i h
      exact Or.inl h
    · rw [Nat.add_comm fuel, ← Nat.add_assoc]
      exact ih (k + 1)

/-- A number with some digits is at least the power of ten below them. -/
theorem tenTo_le_div {num den : Nat} (hden : 0 < den) (h : den ≤ num) :
    tenTo ((decimalDigits (num / den)).length - 1) ≤ num / den := by
  have hpos : 0 < num / den := Nat.div_pos h hden
  rcases Nat.eq_zero_or_pos ((decimalDigits (num / den)).length - 1) with hzero | hlen
  · rw [hzero]
    exact hpos
  · have hlt := (Nat.length_toDigits_le_iff (b := 10) (n := num / den) (by decide) hlen).not
    exact Nat.not_lt.1 (hlt.1 (by rw [← decimalDigits]; omega))

/-- A fraction that is not too small is above one, measured on a grid of eighteen digits. -/
theorem den_le_num_shift (hden : 0 < x.den) (h : x.den ≤ x.num * tenTo 400) :
    (x.shift (pointOf x - 18)).den ≤ (x.shift (pointOf x - 18)).num := by
  have hgrow {m n : Nat} (hn : x.den ≤ x.num * tenTo m) (hmn : m ≤ n) : x.den ≤ x.num * tenTo n :=
    hn.trans (Nat.mul_le_mul_left _ (tenTo_le hmn))
  unfold pointOf
  split
  · rename_i hone
    unfold Fraction.shift
    split
    · -- whole digits are cut off, but not the first
      have hten := tenTo_le_div hden hone
      have hle : tenTo (((decimalDigits (x.num / x.den)).length : Int) - 18).toNat ≤ x.num /
        x.den :=
        (tenTo_le (by omega)).trans hten
      rw [Nat.mul_comm]
      exact (Nat.le_div_iff_mul_le hden).1 hle
    · exact hgrow (m := 0) (by simpa using hone) (Nat.zero_le _)
  · unfold Fraction.shift
    rw [if_neg (by omega)]
    rcases leadingZeros_stops x 400 0 with hstop | hstop
    · exact hgrow hstop (by omega)
    · exact hgrow h (by omega)

theorem Fraction.ofBinary_pos {m : Nat} (hm : 0 < m) (e : Int) :
    0 < (Fraction.ofBinary m e).num ∧ 0 < (Fraction.ofBinary m e).den := by
  unfold ofBinary
  split
  · exact ⟨Nat.mul_pos hm (twoTo_pos _), Nat.one_pos⟩
  · exact ⟨hm, twoTo_pos _⟩

/-- Even the least numbers have less than four hundred zeros behind the point. -/
theorem den_ofBinary_le {m : Nat} {e : Int} (hm : 0 < m) (he : minExponent ≤ e) :
    (Fraction.ofBinary m e).den ≤ (Fraction.ofBinary m e).num * tenTo 400 := by
  unfold Fraction.ofBinary
  split
  · exact Nat.mul_pos (Nat.mul_pos hm (twoTo_pos _)) (tenTo_pos _)
  · have he' : e.natAbs ≤ 3 * 400 := by
      unfold minExponent at he
      omega
    calc twoTo e.natAbs ≤ twoTo (3 * 400) := twoTo_le he'
      _ ≤ tenTo 400 := twoTo_three_mul_le 400
      _ ≤ m * tenTo 400 := Nat.le_mul_of_pos_left _ hm

theorem Fraction.den_shift_pos (h : 0 < x.den) (k : Int) : 0 < (x.shift k).den := by
  unfold shift
  split
  · exact Nat.mul_pos h (tenTo_pos _)
  · exact h

theorem allDigits_shortest (m : Nat) (e : Int) : AllDigits (shortest m e).1 :=
  allDigits_stripEnd (allDigits_decimalDigits _)

/-- The digits of a number that is not zero do not begin with a zero. -/
theorem shortest_eq_cons {m : Nat} {e : Int} (hm : m ≠ 0) (he : minExponent ≤ e) :
    ∃ d ds, (shortest m e).1 = d :: ds ∧ d ≠ '0' := by
  have hm : 0 < m := Nat.pos_of_ne_zero hm
  have hden := (Fraction.ofBinary_pos hm e).2
  have hcoarse := roundDiv_ne_zero (Fraction.den_shift_pos hden _)
    (den_le_num_shift hden (den_ofBinary_le hm he))
  have hfound : (shortestFrom (.ofBinary m e) (cell m e) (pointOf (.ofBinary m e)) 17 1).1 ≠ 0 :=
    shortestFrom_ne_zero hcoarse
  obtain ⟨d, ds, hds, hd⟩ := exists_decimalDigits_eq_cons hfound
  obtain ⟨rest, hrest⟩ := @exists_stripEnd_eq_cons d ds hd
  refine ⟨d, rest, ?_, hd⟩
  rw [← hrest, ← hds]
  rfl

/-! ## The layout of a binary number -/

open Json

/-- An exponent is written as the grammar wants. -/
theorem isPower_power (e : Int) : IsPower (layout.power e) := by
  have hne : padded layout.powerWidth e.natAbs ≠ [] := by simp [padded, decimalDigits_ne_nil]
  unfold Layout.power
  split
  · exact @IsPower.digits 'e' ['-'] _ (by decide) (by decide) (allDigits_padded _ _) hne
  · exact @IsPower.digits 'e' ['+'] _ (by decide) (by decide) (allDigits_padded _ _) hne

/-- Digits that do not begin with a zero are laid out as a number, wherever the point is. -/
theorem isUnsigned_place {d : Char} {ds : List Char} (h : AllDigits (d :: ds)) (hd : d ≠ '0')
    (point : Int) :
    IsUnsigned (layout.place (d :: ds) point) := by
  have hdigit : AllDigits [d] := fun c hc ↦ h c (List.mem_singleton.1 hc ▸ List.mem_cons_self)
  have hdigits : AllDigits ds := fun c hc ↦ h c (List.mem_cons_of_mem _ hc)
  unfold Layout.place
  split
  · split
    · -- below one
      have hall := (allDigits_replicate_zero point.natAbs).append h
      simpa using IsUnsigned.intro .zero (.digits hall (by simp)) .none
    · obtain ⟨n, hn⟩ := Nat.exists_eq_succ_of_ne_zero (n := point.toNat) (by omega)
      have htake : AllDigits (d :: ds.take n) :=
        fun c hc ↦ h c (List.cons_subset_cons d (List.take_subset n ds) hc)
      have hwhole :=
        htake.append (allDigits_replicate_zero (point.toNat - ((d :: ds).take point.toNat).length))
      have hrest : AllDigits (if (ds.drop n).isEmpty then ['0'] else ds.drop n) := by
        split
        · exact allDigits_replicate_zero 1
        · exact fun c hc ↦ hdigits c (List.mem_of_mem_drop hc)
      have hne : (if (ds.drop n).isEmpty then ['0'] else ds.drop n) ≠ [] := by
        split
        · decide
        · rename_i hdrop
          simpa using hdrop
      rw [hn] at hwhole ⊢
      simpa using IsUnsigned.intro (.digits hwhole hd) (.digits hrest hne) .none
  · cases ds with
    | nil => simpa using IsUnsigned.intro (.digits hdigit hd) .none (isPower_power (point - 1))
    | cons r rs =>
      simpa using IsUnsigned.intro (.digits hdigit hd) (.digits hdigits (by simp))
        (isPower_power (point - 1))

/-- The finite numbers: none has an exponent below the least one. -/
inductive IsFinite : Binary64 → Prop
  | intro (s : Bool) (m : Nat) {e : Int} (he : minExponent ≤ e) : IsFinite (.finite s m e)

/-- A finite number is written as a JSON number. -/
theorem IsFinite.isNumber_write {x : Binary64} (h : x.IsFinite) : IsNumber x.write := by
  obtain @⟨s, m, e, he⟩ := h
  refine .intro (signText_mem s) ?_
  split
  · exact @IsUnsigned.intro ['0'] ['.', '0'] [] .zero (.digits (allDigits_replicate_zero 1)
      (by decide)) .none
  · rename_i hm
    obtain ⟨d, ds, hds, hd⟩ := shortest_eq_cons hm he
    have hall : AllDigits (d :: ds) := hds ▸ allDigits_shortest m e
    simp only [hds]
    exact isUnsigned_place hall hd _

end Binary64

end TypedSearch
