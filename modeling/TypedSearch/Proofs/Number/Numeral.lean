import TypedSearch.Number.Whole
import TypedSearch.Number.Decimal
import TypedSearch.Proofs.Text.Trimming
import Mathlib.Algebra.Ring.Nat
import Mathlib.Data.List.Induction
import Mathlib.Data.Nat.Digits.Defs

/-!
# Numerals read back

Writing gives rows of ASCII digits, perhaps with a sign or a point; reading takes more than that.
The lemmas here say what the parts of a reader make of such rows: nothing is trimmed off, no
underscore is dropped, the leading digits are taken up to the first character that is none, and
their value is the number that was written.
-/

namespace TypedSearch

namespace Text

variable {cs ds : List Char} {c : Char}

/-! ## Rows of ASCII digits -/

/-- Does a text hold nothing but ASCII digits? -/
def AllDigits (cs : List Char) : Prop := ∀ c ∈ cs, c.isDigit = true

/-- The value of an ASCII digit. -/
def digitValue (c : Char) : Nat := c.toNat - 48

theorem AllDigits.append (hc : AllDigits cs) (hd : AllDigits ds) : AllDigits (cs ++ ds) := by
  intro c h
  rcases List.mem_append.1 h with h | h
  · exact hc c h
  · exact hd c h

theorem allDigits_decimalDigits (n : Nat) : AllDigits (decimalDigits n) :=
  fun _ ↦ Nat.isDigit_of_mem_toDigits (by decide) (by decide)

theorem allDigits_replicate_zero (n : Nat) : AllDigits (List.replicate n '0') := by
  intro c h
  rw [List.eq_of_mem_replicate h]
  rfl

theorem allDigits_padded (width n : Nat) : AllDigits (padded width n) :=
  (allDigits_replicate_zero _).append (allDigits_decimalDigits n)

theorem decimalDigits_ne_nil (n : Nat) : decimalDigits n ≠ [] := Nat.toDigits_ne_nil

/-- Padding reaches its width, and never cuts. -/
theorem length_padded (width n : Nat) :
    (padded width n).length = max width (decimalDigits n).length := by
  simp only [padded, List.length_append, List.length_replicate]
  omega

/-- A number that is short enough is filled up to the width. -/
theorem length_padded_of_lt {width n : Nat} (hwidth : 0 < width) (h : n < 10 ^ width) :
    (padded width n).length = width := by
  rw [length_padded, Nat.max_eq_left]
  exact (Nat.length_toDigits_le_iff (by decide) hwidth).2 h

theorem toNat_of_isDigit (h : c.isDigit = true) : 48 ≤ c.toNat ∧ c.toNat ≤ 57 := by
  simpa [Char.isDigit, UInt32.le_iff_toNat_le] using h

theorem digit?_of_isDigit (h : c.isDigit = true) : digit? c = some (digitValue c) := by
  have hc := toNat_of_isDigit h
  have hlt : c.toNat < 128 := by omega
  simp [digit?, digitValue, hlt, hc]

theorem isBlank_of_isDigit (h : c.isDigit = true) : isBlank c = false := by
  have hc := toNat_of_isDigit h
  simp only [isBlank]
  grind

theorem ne_of_isDigit {d : Char} (h : c.isDigit = true) (hd : d.isDigit = false) : c ≠ d := by
  rintro rfl
  rw [h] at hd
  cases hd

/-! ## Values of rows of digits -/

/-- A row of digits is read digit by digit. -/
theorem digits?_of_allDigits (h : AllDigits cs) : digits? cs = some (cs.map digitValue) := by
  induction cs with
  | nil => rfl
  | cons c cs ih =>
    obtain ⟨hc, hcs⟩ := List.forall_mem_cons.1 h
    have ih : cs.mapM digit? = some (cs.map digitValue) := ih hcs
    rw [digits?, List.mapM_cons, digit?_of_isDigit hc, ih]
    rfl

theorem ofDigits_map_digitValue (cs : List Char) :
    ofDigits (cs.map digitValue) = Nat.ofDigitChars 10 cs 0 := by
  rw [ofDigits, List.foldl_map, Nat.ofDigitChars_eq_foldl]
  rfl

/-- The digits of a number stand for that number. -/
theorem ofDigits_decimalDigits (n : Nat) : ofDigits ((decimalDigits n).map digitValue) = n := by
  rw [ofDigits_map_digitValue]
  exact Nat.ofDigitChars_ten_toDigits

/-- Zeros in front do not count. -/
theorem ofDigits_padded (width n : Nat) : ofDigits ((padded width n).map digitValue) = n := by
  rw [ofDigits_map_digitValue, padded, Nat.ofDigitChars_append, Nat.ofDigitChars_replicate_zero,
    Nat.mul_zero]
  exact Nat.ofDigitChars_ten_toDigits

/-- Each zero at the end is a factor of ten. -/
theorem ofDigits_decimalDigits_zeros (n k : Nat) :
    ofDigits ((decimalDigits n ++ List.replicate k '0').map digitValue) = n * 10 ^ k := by
  rw [ofDigits_map_digitValue, Nat.ofDigitChars_append, Nat.ofDigitChars_replicate_zero,
    Nat.mul_comm]
  exact congrArg (· * 10 ^ k) Nat.ofDigitChars_ten_toDigits

/-! ## Values of digits of any script -/

theorem lt_of_digit? {d : Nat} (h : digit? c = some d) : d < 10 := by
  simp only [digit?] at h
  split at h
  · split at h
    · rename_i hc
      simp only [Bool.and_eq_true, decide_eq_true_eq] at hc
      cases h
      omega
    · cases h
  · obtain ⟨z, hz, rfl⟩ := Option.map_eq_some_iff.1 h
    have hrow := List.find?_some hz
    simp only [Bool.and_eq_true, decide_eq_true_eq] at hrow
    omega

/-- The library's number of a row of digits has the least significant one first. -/
theorem ofDigits_eq (ds : List Nat) : ofDigits ds = Nat.ofDigits 10 ds.reverse := by
  induction ds using List.reverseRecOn with
  | nil => rfl
  | append_singleton ds d ih =>
    rw [ofDigits_concat, ih, List.reverse_append, List.reverse_singleton, List.singleton_append,
      Nat.ofDigits_cons]
    omega

/-- A number is below the power of ten of its length. -/
theorem ofDigits_lt {ds : List Nat} (h : ∀ d ∈ ds, d < 10) : ofDigits ds < 10 ^ ds.length := by
  rw [ofDigits_eq, ← List.length_reverse]
  exact Nat.ofDigits_lt_base_pow_length (by decide) fun d hd ↦ h d (List.mem_reverse.1 hd)

end Text

namespace Numeral

open Text

variable {cs rest : List Char}

/-! ## Parts of a numeral -/

theorem takeSign_of_isDigit {c : Char} (h : c.isDigit = true) (cs : List Char) :
    takeSign (c :: cs) = (false, c :: cs) := by
  unfold takeSign
  split
  · rename_i hcs
    cases hcs
    cases h
  · rename_i hcs
    cases hcs
    cases h
  · rfl

/-- The digits at the front are taken, up to a character that is none. -/
theorem takeDigits_append (h : AllDigits cs) (hrest : ∀ c ∈ rest.head?, digit? c = none) :
    takeDigits (cs ++ rest) = (cs.map digitValue, rest) := by
  induction cs with
  | nil =>
    cases rest with
    | nil => rfl
    | cons c rest => simp [takeDigits, hrest c rfl]
  | cons c cs ih =>
    obtain ⟨hc, hcs⟩ := List.forall_mem_cons.1 h
    simp [takeDigits, digit?_of_isDigit hc, ih hcs]

/-- A row of digits is taken to its end. -/
theorem takeDigits_of_allDigits (h : AllDigits cs) : takeDigits cs = (cs.map digitValue, []) := by
  have happ : takeDigits (cs ++ []) = (cs.map digitValue, []) := takeDigits_append h (by simp)
  rwa [List.append_nil] at happ

theorem lt_of_mem_takeDigits {d : Nat} (h : d ∈ (takeDigits cs).1) : d < 10 := by
  induction cs with
  | nil => cases h
  | cons c cs ih =>
    unfold takeDigits at h
    split at h
    · cases h
    · rename_i hc
      rcases List.mem_cons.1 h with rfl | h
      · exact lt_of_digit? hc
      · exact ih h

/-- A signed row of digits is a row of digits. -/
theorem lt_of_mem_signedDigits? {s : Bool} {ds : List Nat} (h : signedDigits? cs = some (s, ds)) :
    ds ≠ [] ∧ ∀ d ∈ ds, d < 10 := by
  unfold signedDigits? at h
  dsimp only at h
  split at h
  · rename_i d ds' hds
    cases h
    refine ⟨List.cons_ne_nil _ _, fun d hd ↦ ?_⟩
    have hmem : d ∈ (takeDigits (takeSign cs).2).1 := by rwa [hds]
    exact lt_of_mem_takeDigits hmem
  · cases h

/-- Where there is no underscore, none is dropped. -/
theorem ungroup_eq_self (h : ∀ c ∈ cs, c ≠ '_') : ungroup cs = some cs := by
  have hafter : ∀ (cs : List Char) (b : Bool), (∀ c ∈ cs, c ≠ '_') →
      ungroupAfter b cs = some cs := by
    intro cs
    induction cs with
    | nil => exact fun _ _ ↦ rfl
    | cons c cs ih =>
      intro b h
      obtain ⟨hc, hcs⟩ := List.forall_mem_cons.1 h
      simp [ungroupAfter, hc, ih _ hcs]
  exact hafter cs false h

end Numeral

end TypedSearch
