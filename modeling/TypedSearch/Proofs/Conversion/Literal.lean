import TypedSearch.Conversion
import TypedSearch.Query.Literal
import TypedSearch.Proofs.Calendar.Timestamp
import TypedSearch.Proofs.Number.RoundTrip
import TypedSearch.Proofs.Outcome
import Mathlib.Algebra.Order.Field.Rat

/-!
# Literals read back

The text that a value has in the body of an update is read back to the same value by the reader of
the value's kind, for the values of `Kind.Keeps`: integers that are short enough to be written,
texts, truth values, finite decimals, and moments that a timestamp keeps in full. A decimal keeps
its number, but not the way in which that was written.
-/

namespace TypedSearch

open Text Conversion

/-- The values that the text of a kind keeps in full. -/
inductive Kind.Keeps : Kind → Value → Prop
  | integer {n : Int} (h : Whole.Writable n) : Keeps .integer (.int n)
  | string (s : String) : Keeps .string (.text s)
  | boolean (b : Bool) : Keeps .boolean (.bool b)
  | decimal {s : Bool} {c : Nat} {e : Int} (h : Decimal.inRange c e = true) :
      Keeps .decimal (.decimal (.finite s c e))
  | timestamp {m : Moment} (h : Timestamp.Keeps m) : Keeps .timestamp (.moment m)
  | optionalTimestamp {m : Moment} (h : Timestamp.Keeps m) : Keeps .optionalTimestamp (.moment m)

/-- Are two values the same, where a decimal may be written in another way? -/
inductive Value.Matches : Value → Value → Prop
  | same (v : Value) : Matches v v
  | decimal (s : Bool) {c c' : Nat} {e e' : Int} (h : (c : ℚ) * 10 ^ e = c' * 10 ^ e') :
      Matches (.decimal (.finite s c e)) (.decimal (.finite s c' e'))

variable {k : Kind} {v : Value}

/-- No null is sent for a value that is kept. -/
theorem Kind.Keeps.ne_null (h : k.Keeps v) : v ≠ .null := by
  cases h <;> exact Value.noConfusion

/-- A power of ten that is spelled out in zeros is the same number. -/
theorem Decimal.mul_tens_eq (c : Nat) (e : Int) :
    (c : ℚ) * 10 ^ e = ((c * 10 ^ e.toNat : Nat) : ℚ) * 10 ^ min e 0 := by
  rcases le_or_gt 0 e with he | he
  · obtain ⟨n, rfl⟩ := Int.eq_ofNat_of_zero_le he
    simp
  · rw [min_eq_left he.le, Int.toNat_of_nonpos he.le, pow_zero, Nat.mul_one]

theorem Value.literal_int {n : Int} (h : Whole.Writable n) :
    (Value.int n).literal = .ok (.ofList (Whole.write n)) := by
  have hfits : (Value.int n).fits = true := decide_eq_true h
  exact if_pos hfits

namespace Conversion

/-- Truth values are read back, in the form that they are written in. -/
theorem readBool_literal (b : Bool) :
    readBool (trim (if b then "true" else "false" : String).toList) = some b := by
  cases b <;> decide

/-- The literal of a value that is kept is read back to it. -/
theorem exists_readAs_literal (h : k.Keeps v) : ∃ text, v.literal = .ok text ∧
    ∀ (call : Caller) (t : Declared), ∃ w, readAs call k t text = .ok w ∧ v.Matches w := by
  cases h with
  | @integer n h =>
    refine ⟨_, Value.literal_int h, fun call t ↦ ⟨.int n, ?_, .same _⟩⟩
    rw [readAs, String.toList_ofList, Whole.read_trim_write h]
    rfl
  | string s => exact ⟨s, rfl, fun call t ↦ ⟨.text s, rfl, .same _⟩⟩
  | boolean b =>
    refine ⟨_, rfl, fun call t ↦ ⟨.bool b, ?_, .same _⟩⟩
    rw [readAs, readBool_literal]
    rfl
  | @decimal s c e h =>
    refine ⟨_, rfl, fun call t ↦ ⟨_, ?_, .decimal s (Decimal.mul_tens_eq c e)⟩⟩
    rw [readAs, String.toList_ofList, Decimal.read_trim_positional h]
    rfl
  | @timestamp m h =>
    obtain ⟨cs, hcs, -, hread⟩ := Timestamp.read_trim_write? h
    refine ⟨.ofList cs, by rw [Value.literal, hcs], fun call t ↦ ⟨.moment m, ?_, .same _⟩⟩
    rw [readAs, String.toList_ofList, hread]
    rfl
  | @optionalTimestamp m h =>
    obtain ⟨cs, hcs, hblank, hread⟩ := Timestamp.read_trim_write? h
    have hb : isBlankText (.ofList cs) = false := by rw [isBlankText, String.toList_ofList, hblank]
    refine ⟨.ofList cs, by rw [Value.literal, hcs], fun call t ↦ ⟨.moment m, ?_, .same _⟩⟩
    rw [readAs, hb, String.toList_ofList, hread]
    rfl

/-- A value that its kind keeps is written, and read back as one that matches it. -/
theorem exists_convertAsBy_literal (h : k.Keeps v) : ∃ text, v.literal = .ok text ∧
    ∀ (call : Caller) (t : Declared), ∃ w, convertAsBy call k t text = .ok w ∧ v.Matches w := by
  obtain ⟨text, htext, hread⟩ := exists_readAs_literal h
  refine ⟨text, htext, fun call t ↦ ?_⟩
  obtain ⟨w, hw, hm⟩ := hread call t.inner
  exact ⟨w, Outcome.mapError_eq_ok.2 hw, hm⟩

end Conversion

end TypedSearch
