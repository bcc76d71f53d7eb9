import TypedSearch.Annotation.Walk
import TypedSearch.Annotation.Binding
import TypedSearch.Proofs.Outcome

/-!
# What names are bound

Whatever comes to a clause or a function, the names that are bound are settled by how it is written:
a target binds the names that are written in it (`map_fst_bindings`), and a call that goes through
gives each parameter one thing (`Parameters.map_fst_bind`). Sorting makes no thing up and loses none
(`Declared.perm_of_sortedBy`).
-/

namespace TypedSearch

open Outcome

namespace Annotation

variable {n : Nat} {t : Declared} {us : List Declared} {name : String}

/-! ## Targets -/

/-- An element is taken apart into as many things as there are targets, the one for all others
included. -/
theorem length_partsOf {star : Option Nat} (hstar : ∀ i ∈ star, i < n)
    (h : partsOf n star t = .ok us) :
    us.length = n := by
  unfold partsOf at h
  split at h
  · cases h
  · split at h
    · cases h
    · -- no target takes what is left, so the numbers agree
      split at h
      · cases h
      · split at h
        · cases h
        · cases h
          omega
    · split at h
      · cases h
      · rename_i i _ _
        have hi : i < n := hstar i rfl
        cases h
        simp only [List.length_append, List.length_take, List.length_cons, List.length_drop]
        omega

mutual

/-- Taking a value apart binds the names of the target in their order. -/
theorem map_fst_bindings : ∀ {target : Target} {t : Declared} {bound : List (String × Declared)},
    target.bindings t = .ok bound → bound.map Prod.fst = target.names
  | .name s, t, bound, h => by
    cases h
    rfl
  | .others target, t, bound, h => by
    rw [Target.bindings] at h
    rw [Target.names]
    exact map_fst_bindings h
  | .parts targets, t, bound, h => by
    rw [Target.bindings] at h
    obtain ⟨parts, hparts, h⟩ := bind_eq_ok.1 h
    rw [Target.names]
    refine map_fst_bindAll (length_partsOf (fun i hi ↦ ?_) hparts) h
    exact (List.findIdx?_eq_some_iff_findIdx_eq.1 hi).1

/-- Some targets bind the names that are written in them, each to something of its own item. -/
theorem map_fst_bindAll :
    ∀ {targets : List Target} {ts : List Declared} {bound : List (String × Declared)},
    ts.length = targets.length → bindAll targets ts = .ok bound →
      bound.map Prod.fst = Target.names.namesAll targets
  | [], _, bound, _, h => by
    cases h
    rfl
  | _ :: _, [], _, hlength, _ => by cases hlength
  | target :: targets, t :: ts, bound, hlength, h => by
    rw [bindAll] at h
    obtain ⟨first, hfirst, h⟩ := bind_eq_ok.1 h
    obtain ⟨others, hothers, h⟩ := bind_eq_ok.1 h
    cases h
    rw [List.map_append, map_fst_bindings hfirst, map_fst_bindAll (Nat.succ.inj hlength) hothers,
      Target.names.namesAll]

end

/-! ## Parameters -/

/-- The check for missing arguments lets only a full row pass. -/
theorem eq_nil_of_checkMissing {sort : String} {missing : List String}
    (h : checkMissing name sort missing = .ok ()) : missing = [] := by
  unfold checkMissing at h
  split at h
  · rename_i hmissing
    exact List.isEmpty_iff.1 hmissing
  · cases h

theorem map_fst_filterMap {given : String → Option Declared} {names : List String}
    (h : ∀ s ∈ names, (given s).isSome = true) :
    (names.filterMap fun s ↦ (given s).map fun t ↦ (s, t)).map Prod.fst = names := by
  induction names with
  | nil => rfl
  | cons s names ih =>
    obtain ⟨hs, hnames⟩ := List.forall_mem_cons.1 h
    obtain ⟨t, ht⟩ := Option.isSome_iff_exists.1 hs
    rw [List.filterMap_cons, ht]
    exact congrArg (s :: ·) (ih hnames)

/-- A call that goes through gives each parameter one thing: those for single arguments first, and
then those for all further arguments. -/
theorem Parameters.map_fst_bind {p : Parameters}
    {substitutes named bound : List (String × Declared)} {args : List Declared}
    (h : p.bind name substitutes args named = .ok bound) :
    bound.map Prod.fst = p.ordered ++ p.named ++ p.others.toList ++ p.otherNamed.toList := by
  unfold Parameters.bind at h
  obtain ⟨⟨own, further⟩, -, h⟩ := bind_eq_ok.1 h
  obtain ⟨_, -, h⟩ := bind_eq_ok.1 h
  obtain ⟨_, hordered, h⟩ := bind_eq_ok.1 h
  obtain ⟨_, hnamed, h⟩ := bind_eq_ok.1 h
  -- no parameter for a single argument is missing, or the call would have been refused
  have hgiven : ∀ s ∈ p.ordered ++ p.named,
      ((p.ordered.zip args ++ own).lookup s <|> substitutes.lookup s).isSome = true := by
    intro s hs
    have hordered := List.filter_eq_nil_iff.1 (eq_nil_of_checkMissing hordered) s
    have hnamed := List.filter_eq_nil_iff.1 (eq_nil_of_checkMissing hnamed) s
    have hfound := (List.mem_append.1 hs).elim hordered hnamed
    cases hlookup : (p.ordered.zip args ++ own).lookup s with
    | some t => rfl
    | none => simpa [hlookup] using hfound
  cases h
  rw [List.map_append, List.map_append, map_fst_filterMap hgiven, List.map_map, List.map_map]
  simp [Function.comp_def]

end Annotation

namespace Declared

/-! ## Sorting -/

/-- Putting a thing in its place keeps the things that were there. -/
theorem perm_of_insert {t : Declared × Declared} : ∀ {ts us : List (Declared × Declared)},
    sortedBy.insert t ts = .ok us → us.Perm (t :: ts)
  | [], us, h => by
    cases h
    exact .refl _
  | u :: ts, us, h => by
    rw [sortedBy.insert] at h
    obtain ⟨isLess, -, h⟩ := bind_eq_ok.1 h
    cases isLess with
    | true =>
      obtain ⟨made, hmade, h⟩ := bind_eq_ok.1 h
      cases h
      exact (List.perm_append_singleton u made).trans (((perm_of_insert hmade).cons u).trans
        (.swap t u ts))
    | false =>
      cases h
      exact List.perm_append_comm.trans (((List.reverse_perm ts).append_left [u, t]).trans
        (.swap t u ts))

/-- Inserting one thing after the other keeps them all, by induction over the insertions. -/
theorem perm_of_insertAll {ts : List (Declared × Declared)} :
    ∀ {before made : List (Declared × Declared)},
      ts.foldlM (fun made t ↦ sortedBy.insert t made.reverse) before = .ok made →
      made.Perm (before ++ ts) := by
  induction ts with
  | nil =>
    rintro before made h
    cases h
    rw [List.append_nil]
  | cons t ts ih =>
    intro before made h
    rw [List.foldlM_cons] at h
    obtain ⟨next, hnext, h⟩ := bind_eq_ok.1 h
    have hinsert : next.Perm (t :: before) :=
      (perm_of_insert hnext).trans ((List.reverse_perm before).cons t)
    exact (ih h).trans ((hinsert.append_right ts).trans List.perm_middle.symm)

/-- Things come out of sorting in some order, all of them and no others. -/
theorem perm_of_sortedBy {ts : List (Declared × Declared)} {us : List Declared}
    (h : sortedBy ts = .ok us) :
    us.Perm (ts.map Prod.snd) := by
  obtain ⟨made, hmade, h⟩ := bind_eq_ok.1 h
  cases h
  exact (perm_of_insertAll hmade).map Prod.snd

end Declared

end TypedSearch
