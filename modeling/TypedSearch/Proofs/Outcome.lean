import Mathlib.Data.List.Forall2
import Mathlib.Data.List.ReduceOption

/-!
# Outcomes

What is known about the parts of a computation that may fail, once its outcome is known. A
computation in steps succeeds iff every step does, and fails with the fault of the first step that
does not; the lemmas here say so for two steps, for a step on every member of a row, and for an
invariant along a row of steps.
-/

namespace TypedSearch.Outcome

variable {ε ε' α β γ σ : Type}

/-! ## One step after another -/

/-- A sequence returns iff both of its parts do. -/
theorem bind_eq_ok {x : Except ε α} {f : α → Except ε β} {b : β} :
    x >>= f = .ok b ↔ ∃ a, x = .ok a ∧ f a = .ok b := by
  cases x <;> simp [bind, Except.bind]

/-- It fails where the first part fails, or the second after it. -/
theorem bind_eq_error {x : Except ε α} {f : α → Except ε β} {e : ε} :
    x >>= f = .error e ↔ x = .error e ∨ ∃ a, x = .ok a ∧ f a = .error e := by
  cases x <;> simp [bind, Except.bind]

theorem map_eq_ok {x : Except ε α} {f : α → β} {b : β} :
    x.map f = .ok b ↔ ∃ a, x = .ok a ∧ f a = b := by
  cases x <;> simp [Except.map]

theorem map_eq_error {x : Except ε α} {f : α → β} {e : ε} : x.map f = .error e ↔ x = .error e := by
  cases x <;> simp [Except.map]

theorem mapError_eq_ok {x : Except ε α} {f : ε → ε'} {a : α} :
    x.mapError f = .ok a ↔ x = .ok a := by
  cases x <;> simp [Except.mapError]

theorem mapError_eq_error {x : Except ε α} {f : ε → ε'} {e : ε'} :
    x.mapError f = .error e ↔ ∃ e', x = .error e' ∧ f e' = e := by
  cases x <;> simp [Except.mapError]

theorem exists_eq_ok_iff {x : Except ε α} : (∃ a, x = .ok a) ↔ ∀ e, x ≠ .error e := by
  cases x <;> simp

theorem toOption_eq_some_iff {x : Except ε α} {a : α} : x.toOption = some a ↔ x = .ok a := by
  cases x <;> simp [Except.toOption]

theorem eq_ok_of_toOption {x : Except ε α} {a : α} (h : x.toOption = some a) : x = .ok a := by
  cases x <;> cases h
  rfl

/-! ## The same step on every member of a row -/

/-- A row succeeds iff each of its members does, each with its own result. -/
theorem mapM_eq_ok_iff {f : α → Except ε β} {xs : List α} {ys : List β} :
    xs.mapM f = .ok ys ↔ List.Forall₂ (fun x y ↦ f x = .ok y) xs ys := by
  induction xs generalizing ys with
  | nil =>
    simp only [List.mapM_nil, List.forall₂_nil_left_iff]
    exact ⟨fun h ↦ (Except.ok.inj h).symm, fun h ↦ h ▸ rfl⟩
  | cons x xs ih =>
    simp only [List.mapM_cons, bind_eq_ok, List.forall₂_cons_left_iff]
    constructor
    · rintro ⟨y, hy, zs, hzs, h⟩
      exact ⟨y, zs, hy, ih.1 hzs, (Except.ok.inj h).symm⟩
    · rintro ⟨y, zs, hy, hzs, rfl⟩
      exact ⟨y, hy, zs, ih.2 hzs, rfl⟩

/-- A row succeeds iff each of its members does. -/
theorem exists_mapM_eq_ok_iff {f : α → Except ε β} {xs : List α} :
    (∃ ys, xs.mapM f = .ok ys) ↔ ∀ x ∈ xs, ∃ y, f x = .ok y := by
  induction xs with
  | nil => simp [pure, Except.pure]
  | cons x xs ih =>
    simp only [List.mapM_cons, bind_eq_ok, List.forall_mem_cons, ← ih]
    constructor
    · rintro ⟨_, y, hy, ys, hys, -⟩
      exact ⟨⟨y, hy⟩, ys, hys⟩
    · rintro ⟨⟨y, hy⟩, ys, hys⟩
      exact ⟨y :: ys, y, hy, ys, hys, rfl⟩

/-- A row fails with the fault of the first member that fails. -/
theorem mapM_eq_error_iff {f : α → Except ε β} {xs : List α} {e : ε} :
    xs.mapM f = .error e ↔ ∃ before x after, xs = before ++ x :: after ∧
      (∀ y ∈ before, ∃ b, f y = .ok b) ∧ f x = .error e := by
  induction xs with
  | nil => simp [pure, Except.pure]
  | cons x xs ih =>
    simp only [List.mapM_cons, bind_eq_error]
    constructor
    · rintro (hx | ⟨b, hx, h | ⟨_, _, h⟩⟩)
      · exact ⟨[], x, xs, rfl, by simp, hx⟩
      · obtain ⟨before, y, after, rfl, hb, hy⟩ := ih.1 h
        refine ⟨x :: before, y, after, rfl, ?_, hy⟩
        simpa using ⟨⟨b, hx⟩, hb⟩
      · cases h
    · rintro ⟨before, y, after, hxs, hb, hy⟩
      cases before with
      | nil =>
        obtain ⟨rfl, rfl⟩ := List.cons.inj hxs
        exact .inl hy
      | cons z before =>
        obtain ⟨rfl, rfl⟩ := List.cons.inj hxs
        obtain ⟨b, hb'⟩ := hb x List.mem_cons_self
        refine .inr ⟨b, hb', .inl (ih.2 ⟨before, y, after, rfl, ?_, hy⟩)⟩
        exact fun z hz ↦ hb z (List.mem_cons_of_mem _ hz)

theorem toOption_mapM (f : α → Except ε β) (xs : List α) :
    (xs.mapM f).toOption = xs.mapM fun x ↦ (f x).toOption := by
  induction xs with
  | nil => rfl
  | cons x xs ih =>
    rw [List.mapM_cons, List.mapM_cons, ← ih]
    cases f x with
    | error _ => rfl
    | ok y => cases xs.mapM f <;> rfl

theorem mapM_eq_some {f : α → Option β} {g : α → β} {xs : List α} (h : ∀ x ∈ xs, f x = some (g x)) :
    xs.mapM f = some (xs.map g) := by
  induction xs with
  | nil => rfl
  | cons x xs ih =>
    obtain ⟨hx, hxs⟩ := List.forall_mem_cons.1 h
    rw [List.mapM_cons, hx, ih hxs]
    rfl

/-- What a row gives is what its members give, where some of them give nothing. -/
theorem reduceOption_of_mapM {f : α → Except ε (Option β)} {g : α → Option β}
    (hg : ∀ x o, f x = .ok o → g x = o) {xs : List α} {os : List (Option β)}
    (h : xs.mapM f = .ok os) :
    os.reduceOption = xs.filterMap g := by
  replace h := mapM_eq_ok_iff.1 h
  induction h with
  | nil => rfl
  | @cons x o xs os hx _ ih =>
    have hgx := hg x o hx
    cases o <;> simp [hgx, ih]

theorem mapM_congr {f g : α → Except ε β} {xs : List α} (h : ∀ x ∈ xs, f x = g x) :
    xs.mapM f = xs.mapM g := by
  induction xs with
  | nil => rfl
  | cons x xs ih =>
    rw [List.mapM_cons, List.mapM_cons, h x List.mem_cons_self,
      ih fun y hy ↦ h y (List.mem_cons_of_mem _ hy)]

/-- A row with gaps, read from its first place. -/
theorem map_reduceOption_mapM_cons (f : α → Except ε (Option β)) (x : α) (xs : List α) :
    ((x :: xs).mapM f).map List.reduceOption =
      f x >>= fun o ↦ ((xs.mapM f).map List.reduceOption).map (o.toList ++ ·) := by
  rw [List.mapM_cons]
  cases f x with
  | error _ => rfl
  | ok o => cases xs.mapM f <;> cases o <;> rfl

/-- Members that give nothing may be left out of a row. -/
theorem map_reduceOption_mapM_filter {f : α → Except ε (Option β)} {p : α → Bool} {xs : List α}
    (h : ∀ x ∈ xs, p x = false → f x = .ok none) :
    ((xs.filter p).mapM f).map List.reduceOption = (xs.mapM f).map List.reduceOption := by
  induction xs with
  | nil => rfl
  | cons x xs ih =>
    obtain ⟨hx, hxs⟩ := List.forall_mem_cons.1 h
    rw [map_reduceOption_mapM_cons, ← ih hxs]
    cases hp : p x with
    | true => rw [List.filter_cons_of_pos hp, map_reduceOption_mapM_cons]
    | false =>
      rw [List.filter_cons_of_neg (by simp [hp]), hx hp]
      cases (xs.filter p).mapM f <;> rfl

/-- What each member of a row makes sure of, the whole row of what comes of them is. -/
theorem forall_mem_of_forall₂ {R : α → β → Prop} {P : β → Prop} {xs : List α} {ys : List β}
    (h : List.Forall₂ R xs ys) (hP : ∀ x ∈ xs, ∀ y, R x y → P y) : ∀ y ∈ ys, P y := by
  induction h with
  | nil => simp
  | cons hr _ ih =>
    exact List.forall_mem_cons.2 ⟨hP _ List.mem_cons_self _ hr,
      ih fun x hx ↦ hP x (List.mem_cons_of_mem _ hx)⟩

/-! ## Invariants along a row -/

/-- What every step of a stateful computation keeps, the computation over a row keeps. -/
theorem foldlM_invariant {P : β → Prop} {f : β → α → StateT σ (Except ε) β}
    (hf : ∀ b a s b' s', P b → (f b a).run s = .ok (b', s') → P b') {xs : List α} {b : β} {s : σ}
    {b' : β} {s' : σ} (hb : P b) (h : (xs.foldlM f b).run s = .ok (b', s')) : P b' := by
  induction xs generalizing b s with
  | nil =>
    simp only [List.foldlM_nil, StateT.run_pure] at h
    cases h
    exact hb
  | cons x xs ih =>
    simp only [List.foldlM_cons, StateT.run_bind, bind_eq_ok] at h
    obtain ⟨⟨c, t⟩, hc, h⟩ := h
    exact ih (hf _ _ _ _ _ hb hc) h

end TypedSearch.Outcome
