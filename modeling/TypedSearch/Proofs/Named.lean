import Mathlib.Data.List.Nodup
import TypedSearch.Named

/-!
# What rows of named values hold

Putting a value under its name leaves all other names alone and adds the name at most once, so a row
that is built by putting values into it has every name once. What is found under a name is what was
put there last, and where values are kept instead, what was put there first.
-/

namespace TypedSearch

variable {α β : Type} {nameOf : α → String} {x : α} {ys : List α}

/-! ## Names -/

/-- Putting a value in place adds its name at the end, unless the name is there already. -/
theorem map_putNamed (x : α) (ys : List α) :
    (putNamed nameOf x ys).map nameOf =
      if nameOf x ∈ ys.map nameOf then ys.map nameOf else ys.map nameOf ++ [nameOf x] := by
  induction ys with
  | nil => simp [putNamed]
  | cons y ys ih =>
    by_cases h : nameOf y = nameOf x
    · simp [putNamed, h]
    · have h' : nameOf x ≠ nameOf y := Ne.symm h
      by_cases hx : nameOf x ∈ ys.map nameOf
      · simp_all [putNamed]
      · simp_all [putNamed]

/-- Putting a named thing keeps the names distinct. -/
theorem nodup_putNamed (x : α) (h : (ys.map nameOf).Nodup) :
    ((putNamed nameOf x ys).map nameOf).Nodup := by
  rw [map_putNamed]
  split
  · exact h
  · rename_i hx
    rw [← List.concat_eq_append]
    exact List.Nodup.concat hx h

theorem nodup_foldl_putNamed (g : β → α) {ms : List β}
    (h : (ys.map nameOf).Nodup) :
    ((ms.foldl (fun ys m ↦ putNamed nameOf (g m) ys) ys).map nameOf).Nodup := by
  induction ms generalizing ys with
  | nil => exact h
  | cons m ms ih => exact ih (nodup_putNamed (g m) h)

/-! ## Values -/

theorem mem_putNamed_self (x : α) (ys : List α) : x ∈ putNamed nameOf x ys := by
  induction ys with
  | nil => exact List.mem_singleton_self x
  | cons y ys ih =>
    rw [putNamed]
    split
    · exact List.mem_cons_self
    · exact List.mem_cons_of_mem y ih

/-! ## What is found under a name -/

theorem lookup_cons_eq_ite (n k : String) (v : β) (ms : List (String × β)) :
    ((n, v) :: ms).lookup k = if k = n then some v else ms.lookup k := by
  rw [List.lookup_cons]
  split <;> simp_all

/-- The last value put under a name is the one that is found there. -/
theorem lookup_putNamed (n : String) (v : β) (k : String) (ms : List (String × β)) :
    (putNamed Prod.fst (n, v) ms).lookup k = if k = n then some v else ms.lookup k := by
  induction ms with
  | nil => simp [putNamed, lookup_cons_eq_ite]
  | cons m ms ih =>
    obtain ⟨a, b⟩ := m
    by_cases ha : a = n
    · subst ha
      by_cases h : k = a <;> simp [putNamed, lookup_cons_eq_ite, h]
    · by_cases h : k = a
      · subst h
        simp [putNamed, ha]
      · simp [putNamed, lookup_cons_eq_ite, ha, h, ih]

/-- The value put in place last is found under its name, all others under theirs as before. -/
theorem find?_putNamed (x : α) (ys : List α) (n : String) :
    (putNamed nameOf x ys).find? (nameOf · == n) =
      if nameOf x = n then some x else ys.find? (nameOf · == n) := by
  induction ys with
  | nil => simp [putNamed, List.find?_singleton]
  | cons y ys ih =>
    rw [putNamed]
    split
    case isTrue hy =>
      by_cases hx : nameOf x = n <;> simp [hx, eq_of_beq hy]
    case isFalse hy =>
      by_cases hyn : nameOf y = n
      · have hx : nameOf x ≠ n := fun hx ↦ hy (by simp [hx, hyn])
        simp [hyn, hx]
      · simp [hyn, ih]

/-- Of the values put in place one after the other, the last one of a name is found under it. -/
theorem find?_foldl_putNamed (xs ys : List α) (n : String) :
    (xs.foldl (fun ys x ↦ putNamed nameOf x ys) ys).find? (nameOf · == n) =
      (xs.reverse.find? (nameOf · == n)).or (ys.find? (nameOf · == n)) := by
  induction xs generalizing ys with
  | nil => rfl
  | cons x xs ih =>
    rw [List.foldl_cons, ih, find?_putNamed, List.reverse_cons, List.find?_append,
      List.find?_singleton]
    by_cases hx : nameOf x = n <;> simp [hx]

/-- A value that is kept is found under its name only if none was there. -/
theorem find?_keepNamed (x : α) (ys : List α) (n : String) :
    (keepNamed nameOf x ys).find? (nameOf · == n) =
      (ys.find? (nameOf · == n)).or (if nameOf x = n then some x else none) := by
  rw [keepNamed]
  split
  case isTrue hy =>
    by_cases hx : nameOf x = n
    · subst hx
      obtain ⟨z, hz⟩ := Option.isSome_iff_exists.1 (List.find?_isSome.2 (List.any_eq_true.1 hy))
      rw [hz]
      rfl
    · rw [if_neg hx, Option.or_none]
  case isFalse =>
    rw [List.find?_append, List.find?_singleton]
    by_cases hx : nameOf x = n <;> simp [hx]

/-- Of the values kept one after the other, the first one of a name is found under it. -/
theorem find?_foldl_keepNamed (xs ys : List α) (n : String) :
    (xs.foldl (fun ys x ↦ keepNamed nameOf x ys) ys).find? (nameOf · == n) =
      (ys.find? (nameOf · == n)).or (xs.find? (nameOf · == n)) := by
  induction xs generalizing ys with
  | nil => exact Option.or_none.symm
  | cons x xs ih =>
    rw [List.foldl_cons, ih, find?_keepNamed, Option.or_assoc, List.find?_cons]
    by_cases hx : nameOf x = n
    · rw [if_pos hx, beq_iff_eq.2 hx]
      rfl
    · rw [if_neg hx, beq_false_of_ne hx]
      rfl

/-! ## Values put one after the other -/

variable {k l : String} {u v : β} {vs : List (String × β)}

/-- Of two values put under one name the second one stays. -/
theorem putNamed_putNamed_self (k : String) (u v : β) (vs : List (String × β)) :
    putNamed Prod.fst (k, v) (putNamed Prod.fst (k, u) vs) = putNamed Prod.fst (k, v) vs := by
  induction vs with
  | nil => simp [putNamed]
  | cons a vs ih =>
    by_cases h : a.1 = k
    · simp [putNamed, h]
    · simp [putNamed, h, ih]

/-- A value whose name has its place already can be put in before or after one with another name. -/
theorem putNamed_comm_of_mem (hk : k ∈ vs.map Prod.fst) (hkl : k ≠ l) (u v : β) :
    putNamed Prod.fst (k, v) (putNamed Prod.fst (l, u) vs) =
      putNamed Prod.fst (l, u) (putNamed Prod.fst (k, v) vs) := by
  induction vs with
  | nil => cases hk
  | cons a vs ih =>
    by_cases ha : a.1 = k
    · have hal : a.1 ≠ l := fun h ↦ hkl (ha.symm.trans h)
      simp [putNamed, ha, hkl]
    · have hmem : k ∈ vs.map Prod.fst := (List.mem_cons.1 hk).resolve_left (Ne.symm ha)
      by_cases hal : a.1 = l
      · simp [putNamed, hal, hkl.symm]
      · simp [putNamed, ha, hal, ih hmem]

end TypedSearch
