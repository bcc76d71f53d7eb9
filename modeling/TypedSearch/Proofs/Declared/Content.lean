import TypedSearch.Document.Schema
import TypedSearch.Proofs.Outcome

/-!
# How declared types are read

What it means for a declared type to be read as a single value or as a container: which kind or
shape it has then, and that the items of a container are single values themselves.
-/

namespace TypedSearch

/-- Only a class that is read without a call has a kind of its own. -/
theorem Kind.exists_base_of_ofInner {t : Declared} {k : Kind} (h : ofInner t = some k)
    (hk : k ≠ .generic) :
    ∃ b, t = .base b ∧ ofBase b = some k := by
  cases t with
  | base b => exact ⟨b, rfl, h⟩
  | enumeration | textual | reader | document | special => exact absurd (Option.some.inj h).symm hk
  | other c =>
    change (if c.isContainer then none else some .generic) = some k at h
    split at h <;> cases h
    exact absurd rfl hk
  | _ => cases h

end TypedSearch

namespace TypedSearch.Declared

open Outcome

variable {t e : Declared} {k : Kind} {s : Shape}

/-- A type that is read as a container has its shape. -/
theorem shape?_of_content_container (h : t.content = .ok (.container s)) :
    t.shape? = .ok (some s) := by
  unfold content at h
  split at h
  · cases h
  · obtain ⟨shape, hshape, h⟩ := bind_eq_ok.1 h
    split at h
    · cases h
      exact hshape
    · split at h
      · cases h
      · obtain ⟨kind, -, h⟩ := bind_eq_ok.1 h
        split at h <;> cases h

/-- A type that is read as a single value has its kind, and no shape. -/
theorem kind?_of_content_scalar (h : t.content = .ok (.scalar k)) :
    t.kind? = .ok (some k) ∧ t.shape? = .ok none := by
  unfold content at h
  split at h
  · cases h
  · obtain ⟨shape, hshape, h⟩ := bind_eq_ok.1 h
    split at h
    · cases h
    · split at h
      · cases h
      · obtain ⟨kind, hkind, h⟩ := bind_eq_ok.1 h
        split at h
        · cases h
          exact ⟨hkind, hshape⟩
        · cases h

/-- A type is scalar iff it has a kind. -/
theorem isScalar_eq_ok_true_iff : t.isScalar = .ok true ↔ ∃ k, t.kind? = .ok (some k) := by
  simp only [isScalar, map_eq_ok]
  constructor
  · rintro ⟨a, ha, hs⟩
    obtain ⟨k, rfl⟩ := Option.isSome_iff_exists.1 hs
    exact ⟨k, ha⟩
  · rintro ⟨k, hk⟩
    exact ⟨some k, hk, rfl⟩

/-- A type of a kind that does not call it is the class that the kind reads, as it is or optional.
Among the optional classes the one of moments has a kind of its own. -/
theorem base_of_kind? (h : t.kind? = .ok (some k)) (hk : k ≠ .generic) :
    (k = .optionalTimestamp ∧ t.inner = .base .moment ∧ t.isOptional = true) ∨
      ∃ b, t.inner = .base b ∧ Kind.ofBase b = some k ∧ (b = .moment → t.isOptional = false) := by
  unfold kind? at h
  split at h
  · rename_i hu
    cases h
    exact .inl ⟨rfl, by rw [inner, hu], by rw [isOptional, hu]⟩
  · rename_i u o hne hu
    obtain ⟨_, -, h⟩ := bind_eq_ok.1 h
    obtain ⟨b, rfl, hb⟩ := Kind.exists_base_of_ofInner (Except.ok.inj h) hk
    refine .inr ⟨b, by rw [inner, hu], hb, ?_⟩
    rintro rfl
    rw [isOptional, hu]
    exact eq_false_of_ne_true fun ho ↦ hne rfl ho

/-! ## Names -/

theorem fitsAll_eq_all (ts : List Declared) : fitsAll ts = ts.all fits := by
  induction ts with
  | nil => rfl
  | cons t ts ih => rw [fitsAll, ih, List.all_cons]

/-- A type is the one inside it, or a union of that one and the null class. -/
theorem inner_eq_or (t : Declared) :
    t.inner = t ∨ ∃ style members, t = .union style members ∧ present members = [t.inner] := by
  cases t with
  | union style members =>
    cases hp : present members with
    | nil => exact .inl (by simp [inner, unwrap, hp])
    | cons u us =>
      cases us with
      | cons _ _ => exact .inl (by simp [inner, unwrap, hp])
      | nil =>
        by_cases hl : members.length = 2
        · exact .inr ⟨style, members, rfl, by simp [inner, unwrap, hp, hl]⟩
        · exact .inl (by simp [inner, unwrap, hp, hl])
  | _ => exact .inl rfl

theorem fits_of_inner (h : t.inner.fits = true) : t.fits = true := by
  rcases inner_eq_or t with ht | ⟨style, members, ht, hp⟩
  · rwa [ht] at h
  · rw [ht, fits, fitsAll_eq_all, List.all_eq_true]
    intro m hm
    by_cases hnull : m = null
    · rw [hnull]
      rfl
    · have hmem : m ∈ present members := List.mem_filter.2 ⟨hm, bne_iff_ne.2 hnull⟩
      rw [hp, List.mem_singleton] at hmem
      rwa [hmem]

/-- There are no integers in the name of a type of single values. -/
theorem fits_of_kind? (h : t.kind? = .ok (some k)) : t.fits = true := by
  refine fits_of_inner ?_
  unfold kind? at h
  split at h
  · rename_i hu
    rw [inner, hu]
    rfl
  · rename_i u o hne hu
    obtain ⟨_, -, h⟩ := bind_eq_ok.1 h
    rw [inner, hu]
    cases u <;> first | rfl | cases h

/-- A type whose name can be written is refused by that name. -/
theorem naming_of_fits (h : t.fits = true) (fault : String → Fault) :
    t.naming fault = fault t.name := by
  cases t with
  | constant v =>
    replace h : v.fits = true := h
    cases v <;> simp_all [naming, name?, Value.display?, name, className?, Value.fits]
  | _ => simp [naming, name?, h]

/-! ## Shapes -/

inductive HasShape : Declared → Shape → Prop
  | homogeneous {f : Family} {spelling : Spelling} {e : Declared} {k : Kind}
      (listLike : isListLike f = true) (typed : e ≠ .base .any) (single : e.kind? = .ok (some k)) :
      HasShape (.applied f spelling [e]) (.homogeneous e)
  | array {spelling : Spelling} {e : Declared} {k : Kind} (single : e.kind? = .ok (some k)) :
      HasShape (.applied .tuple spelling [e, .rest]) (.array e)
  | bare {f : Family} {spelling : Spelling} (untyped : isUntyped f = true) :
      HasShape (.container f spelling) .untyped
  | ofAny {f : Family} {spelling : Spelling} (listLike : isListLike f = true) :
      HasShape (.applied f spelling [.base .any]) .untyped

theorem innerShape?_eq_ok_some_iff : t.innerShape? = .ok (some s) ↔ t.HasShape s := by
  constructor
  · intro h
    unfold innerShape? at h
    split at h
    · rename_i f spelling
      split at h <;> cases h
      rename_i hf
      exact .bare hf
    · obtain ⟨b, hb, h⟩ := bind_eq_ok.1 h
      cases b <;> cases h
      obtain ⟨k, hk⟩ := isScalar_eq_ok_true_iff.1 hb
      exact .array hk
    · rename_i f spelling e
      split at h
      · cases h
      · rename_i hf
        replace hf : isListLike f = true := by simpa using hf
        split at h
        · rename_i he
          cases h
          subst he
          exact .ofAny hf
        · rename_i he
          obtain ⟨b, hb, h⟩ := bind_eq_ok.1 h
          cases b <;> cases h
          obtain ⟨k, hk⟩ := isScalar_eq_ok_true_iff.1 hb
          exact .homogeneous hf he hk
    · cases h
  · intro h
    cases h with
    | @homogeneous f spelling e k hf he hk =>
      have hs : e.isScalar = .ok true := isScalar_eq_ok_true_iff.2 ⟨k, hk⟩
      cases f <;> cases hf <;>
        simp [innerShape?, isListLike, he, hs, bind, Except.bind, pure, Except.pure]
    | @array spelling e k hk =>
      have hs : e.isScalar = .ok true := isScalar_eq_ok_true_iff.2 ⟨k, hk⟩
      simp [innerShape?, hs, bind, Except.bind, pure, Except.pure]
    | bare hf => exact congrArg Except.ok (if_pos hf)
    | @ofAny f spelling hf => cases f <;> cases hf <;> rfl

/-- The items of a container that are of one type are single values of some kind. -/
theorem exists_kind?_of_shape? (h : t.shape? = .ok (some s)) (he : s.element? = some e) :
    ∃ k, e.kind? = .ok (some k) := by
  change t.inner.innerShape? = .ok (some s) at h
  generalize t.inner = u at h
  cases innerShape?_eq_ok_some_iff.1 h with
  | homogeneous _ _ hk | array hk =>
    cases he
    exact ⟨_, hk⟩
  | bare | ofAny => cases he

end TypedSearch.Declared
