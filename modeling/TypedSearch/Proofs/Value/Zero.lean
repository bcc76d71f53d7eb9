import TypedSearch.Declared.Basic
import TypedSearch.Value.Equality
import TypedSearch.Value.Order
import Mathlib.Data.Rat.Lemmas

/-!
# Zeros

A value is asked two things: whether it equals the number zero (`Value.isZero`), and whether it
equals another value (`Value.equals`). For the zero of a class of numbers the two agree
(`Value.equals_zero_iff`), whatever class the value itself is of.
-/

namespace TypedSearch

/-! ## Magnitudes -/

namespace Magnitude

variable {den : Nat} {n e : Int}

def zero : Magnitude := .finite 0 1 0

/-- Moving factors of ten to the exponent makes no zero. -/
theorem stripTens_ne_zero (hn : n ≠ 0) (fuel : Nat) (e : Int) : stripTens den fuel n e ≠ zero := by
  induction fuel generalizing n e with
  | zero =>
    intro h
    exact hn (Magnitude.finite.inj h).1
  | succ fuel ih =>
    unfold stripTens
    split
    · exact ih (by omega) (e + 1)
    · intro h
      exact hn (Magnitude.finite.inj h).1

theorem ofScaled_eq_zero_iff : ofScaled den n e = zero ↔ n = 0 := by
  unfold ofScaled
  split
  · rename_i hn
    exact ⟨fun _ ↦ hn, fun _ ↦ rfl⟩
  · rename_i hn
    exact ⟨fun h ↦ absurd h (stripTens_ne_zero hn _ e), fun h ↦ absurd h hn⟩

/-- A ratio is zero iff its numerator is. -/
theorem ofRatio_eq_zero_iff {q : Rat} : ofRatio q = zero ↔ q.num = 0 := by
  have htwo : ∀ k, (twoTo k : Int) ≠ 0 := fun k ↦ by
    have := twoTo_pos k
    omega
  have hfive : ∀ k, ((Nat.pow 5 k : Nat) : Int) ≠ 0 := fun k ↦ by
    have : 0 < 5 ^ k := Nat.pow_pos (by decide)
    exact_mod_cast this.ne'
  simp only [ofRatio, ofScaled_eq_zero_iff, Int.mul_eq_zero, htwo, hfive, or_false]

theorem ofBinary?_eq_zero_iff {x : Binary64} : ofBinary? x = some zero ↔ x.isZero = true := by
  cases x with
  | finite s m e =>
    have hsigned : Numeral.signed s m = 0 ↔ m = 0 := by
      cases s <;> simp [Numeral.signed]
    have htwo : ∀ k, twoTo k ≠ 0 := fun k ↦ (twoTo_pos k).ne'
    simp only [ofBinary?, Option.some.injEq, Binary64.isZero, beq_iff_eq]
    split
    · rw [ofRatio_eq_zero_iff, Rat.num_eq_zero, Rat.mkRat_eq_zero (by decide)]
      simp [hsigned, htwo]
    · rw [ofRatio_eq_zero_iff, Rat.num_eq_zero, Rat.mkRat_eq_zero (htwo _), hsigned]
  | infinite s => simp [ofBinary?, Binary64.isZero, zero]
  | nan => simp [ofBinary?, Binary64.isZero]

theorem ofDecimal?_eq_zero_iff {d : Decimal} : ofDecimal? d = some zero ↔ d.isZero = true := by
  cases d with
  | finite s c e =>
    have hsigned : Numeral.signed s c = 0 ↔ c = 0 := by
      cases s <;> simp [Numeral.signed]
    simp [ofDecimal?, ofScaled_eq_zero_iff, Decimal.isZero, hsigned]
  | infinite s => simp [ofDecimal?, Decimal.isZero, zero]
  | nan => simp [ofDecimal?, Decimal.isZero]

end Magnitude

/-! ## Values -/

/-- The value of a class that is nothing to ask for: zero, or the empty text. -/
def Base.zero? : Base → Option Value
  | .int => some (.int 0)
  | .float => some (.float (.zero false))
  | .decimal => some (.decimal (.finite false 0 0))
  | .bool => some (.bool false)
  | .text => some (.text "")
  | _ => none

namespace Value

variable {v z : Value}

/-- A value has no magnitude iff it is a zero. -/
theorem magnitude?_eq_zero_iff : v.magnitude? = some .zero ↔ v.isZero = .ok true := by
  cases v with
  | bool b => cases b <;> simp [magnitude?, isZero, Magnitude.ofScaled_eq_zero_iff]
  | int n => simp [magnitude?, isZero, Magnitude.ofScaled_eq_zero_iff]
  | float x => simp [magnitude?, isZero, Magnitude.ofBinary?_eq_zero_iff]
  | complex c =>
    simp only [magnitude?, isZero]
    split <;> simp_all [Magnitude.ofBinary?_eq_zero_iff]
  | decimal d =>
    simp only [magnitude?, Magnitude.ofDecimal?_eq_zero_iff]
    cases d with
    | nan s signaling payload => cases signaling <;> simp [isZero, Decimal.isZero]
    | _ => simp [isZero]
  | ratio q => simp [magnitude?, isZero, Magnitude.ofRatio_eq_zero_iff]
  | symbol family name value whole =>
    cases value <;> cases whole <;> simp [magnitude?, isZero, Magnitude.ofScaled_eq_zero_iff]
  | _ => simp [magnitude?, isZero]

/-- Only numbers have a magnitude. -/
theorem isNumber_of_magnitude? {m : Magnitude} (h : v.magnitude? = some m) : v.isNumber = true := by
  cases v with
  | symbol family name value whole =>
    cases value <;> cases whole <;> first | rfl | cases h
  | bool | int | float | complex | decimal | ratio => rfl
  | _ => cases h

/-- A value equals the zero of a class of numbers if its magnitude is zero; no other value has
one. -/
theorem equals_zero_iff (hz : z.magnitude? = some .zero) (hc : ∀ c, z ≠ .complex c) :
    v.equals z = true ↔ v.isZero = .ok true := by
  have hnumber := isNumber_of_magnitude? hz
  rw [← magnitude?_eq_zero_iff]
  unfold equals
  split
  · cases hnumber
  · cases hnumber
  · cases hnumber
  · exact absurd rfl (hc _)
  · split
    · rw [hz]
      cases v.magnitude? <;> simp
    · rename_i hboth
      have hnone : v.magnitude? = none := by
        cases hm : v.magnitude? with
        | none => rfl
        | some m => exact absurd (by simp [isNumber_of_magnitude? hm, hnumber]) hboth
      have htext : z.text? = none := by
        cases z <;> first | rfl | cases hnumber
      rw [hnone, htext]
      cases v.text? with
      | none =>
        have hne : v ≠ z := fun h ↦ by
          rw [h, hz] at hnone
          cases hnone
        simp [hne]
      | some s => simp

theorem equals_empty_iff : v.equals (.text "") = true ↔ v.isEmptyText = true := by
  cases v <;> simp [equals, isNumber, isEmptyText, text?]

end Value

end TypedSearch
