import TypedSearch.Settings.Environment

/-!
# Numbers of seconds that count

What the variables of the process alone decide is a number above zero (`isPositive_processTimeout`).
A caller's number is compared the other way around (`Environment.result_positiveOrNone`): it is
dropped if it is known to be zero or below, so that a not-a-number, which compares with nothing,
stays.
-/

namespace TypedSearch

/-! ## Numbers above zero -/

namespace Binary64

/-- The numbers above zero, the infinite one among them. -/
inductive IsPositive : Binary64 → Prop
  | finite {m : Nat} (e : Int) (h : 0 < m) : IsPositive (.finite false m e)
  | infinite : IsPositive (.infinite false)

variable {x : Binary64}

/-- What is not a number is not above zero. -/
theorem not_isPositive_nan : ¬ IsPositive .nan := nofun

/-- A number is above zero, or zero or below, or it is no number. -/
theorem isPositive_or (x : Binary64) : x.IsPositive ∨ (x.isZero || x.isNegative) = true ∨
    x = .nan := by
  cases x with
  | finite s m e =>
    rcases Nat.eq_zero_or_pos m with rfl | hm
    · exact Or.inr (Or.inl rfl)
    · cases s with
      | false => exact Or.inl (.finite e hm)
      | true => exact Or.inr (Or.inl (by simp [isNegative, Nat.ne_of_gt hm]))
  | infinite s =>
    cases s with
    | false => exact Or.inl .infinite
    | true => exact Or.inr (Or.inl rfl)
  | nan => exact Or.inr (Or.inr rfl)

/-- A positive number of seconds is kept. -/
theorem IsPositive.not_dropped (h : x.IsPositive) : (x.isZero || x.isNegative) = false := by
  cases h with
  | finite e h => simp [isZero, isNegative, Nat.ne_of_gt h]
  | infinite => rfl

end Binary64

/-! ## What the process decides -/

namespace Settings

/-- The test for a number above zero holds of just these numbers. -/
theorem isPositive_iff {x : Binary64} : isPositive x = true ↔ x.IsPositive := by
  constructor
  · intro h
    rcases x.isPositive_or with hx | hx | rfl
    · exact hx
    · cases x <;> simp_all [isPositive]
    · cases h
  · intro h
    have hkept := h.not_dropped
    cases h with
    | finite => simpa [isPositive] using hkept
    | infinite => rfl

theorem isPositive_defaultTimeout : defaultTimeout.IsPositive := .finite _ (by decide)

/-- Whatever the variables of the process say, the number of seconds they lead to is above zero. -/
theorem isPositive_processTimeout (vs : Variables) : (processTimeout vs).IsPositive := by
  unfold processTimeout
  split
  · exact isPositive_defaultTimeout
  · split
    · split
      · rename_i h
        exact isPositive_iff.1 h
      · exact isPositive_defaultTimeout
    · exact isPositive_defaultTimeout

namespace Environment

theorem isNonPositive_float (x : Binary64) :
    (Value.float x).isNonPositive = .ok (x.isZero || x.isNegative) := by
  cases x with
  | finite s m e => cases s <;> by_cases hm : m = 0 <;>
      simp [Value.isNonPositive, Value.compareZero, Binary64.isZero, Binary64.isNegative, hm,
        Except.map]
  | infinite s => cases s <;> rfl
  | nan => rfl

/-- A number of seconds counts unless it is zero or below. -/
theorem result_positiveOrNone (x : Binary64) (source : String) :
    (positiveOrNone (.float x) source).result =
    .ok (if x.isZero || x.isNegative then none else some (.float x)) := by
  have hdisplay : ∃ text, (Value.float x).display? = .ok text := ⟨_, rfl⟩
  obtain ⟨text, htext⟩ := hdisplay
  rw [positiveOrNone, isNonPositive_float, htext]
  cases x.isZero || x.isNegative <;> rfl

end Environment

end Settings

end TypedSearch
