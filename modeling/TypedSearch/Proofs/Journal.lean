import TypedSearch.Journal.Basic

/-!
# Notes along a computation

Computations that take notes are put together by the laws of a monad, notes included, and what they
warn about can be read off their parts: a computation that goes on warns about what its parts warn
about, and one that fails about what it had warned about by then.
-/

namespace TypedSearch.Traced

variable {α β : Type} {x : Traced α} {f : α → Traced β}

instance : LawfulMonad Traced := LawfulMonad.mk' _
  (fun x ↦ by
    change andThen x _ = x
    unfold andThen
    cases h : x.result <;> simp [h, Traced.ext_iff])
  (fun _ _ ↦ rfl)
  (fun x f g ↦ by
    change andThen (andThen x f) g = andThen x fun a ↦ andThen (f a) g
    unfold andThen
    cases x.result with
    | error _ => rfl
    | ok a => cases h : (f a).result <;> simp [h])

theorem ofExcept_ok_bind (a : α) (f : α → Traced β) : ofExcept (.ok a) >>= f = f a := rfl

def warnings (x : Traced α) : List Journal.Note := x.notes.filter fun n ↦ n.level = .warning

@[simp] theorem warnings_pure (a : α) : (pure a : Traced α).warnings = [] := rfl

theorem warnings_tell_map_ofPrinted (lines : List String) :
    (tell (lines.map Journal.Note.ofPrinted)).warnings = [] := by
  simp [warnings, Journal.Note.ofPrinted]

/-- The warnings of two computations in a row, where the first returns. -/
theorem warnings_bind_of_ok {a : α} (h : x.result = .ok a) :
    (x >>= f).warnings = x.warnings ++ (f a).warnings := by
  change (andThen x f).warnings = _
  simp [andThen, warnings, h]

/-- A computation that fails warns no further. -/
theorem warnings_bind_of_error {e : Fault} (h : x.result = .error e) :
    (x >>= f).warnings = x.warnings := by
  change (andThen x f).warnings = _
  simp [andThen, warnings, h]

theorem warnings_bind_eq_nil (hx : x.warnings = []) (hf : ∀ a, (f a).warnings = []) :
    (x >>= f).warnings = [] := by
  cases h : x.result with
  | ok a => rw [warnings_bind_of_ok h, hx, hf, List.nil_append]
  | error e => rw [warnings_bind_of_error h, hx]

/-- A run of steps that never warn never warns. -/
theorem warnings_foldlM_eq_nil {g : β → α → Traced β} (hg : ∀ b a, (g b a).warnings = [])
    (xs : List α) (b : β) : (xs.foldlM g b).warnings = [] := by
  induction xs generalizing b with
  | nil => rfl
  | cons x xs ih =>
    rw [List.foldlM_cons]
    exact warnings_bind_eq_nil (hg b x) ih

/-! ## Computations that print nothing -/

def Silent (x : Traced α) : Prop := ∀ n ∈ x.notes, n.isPrinted = false

theorem silent_of_notes_eq_nil (h : x.notes = []) : x.Silent := by simp [Silent, h]

/-- A sequence prints nothing if its first part does not, nor the second one where it is reached. -/
theorem Silent.bind (hx : x.Silent) (hf : ∀ a, x.result = .ok a → (f a).Silent) :
    (x >>= f).Silent := by
  change (andThen x f).Silent
  unfold andThen
  cases h : x.result with
  | error _ => exact hx
  | ok a => exact List.forall_mem_append.2 ⟨hx, hf a h⟩

theorem silent_foldlM {g : β → α → Traced β} (hg : ∀ b a, (g b a).Silent) (xs : List α) (b : β) :
    (xs.foldlM g b).Silent := by
  induction xs generalizing b with
  | nil => exact silent_of_notes_eq_nil rfl
  | cons x xs ih =>
    rw [List.foldlM_cons]
    exact (hg b x).bind fun b' _ ↦ ih b'

/-- What prints nothing has printed nothing. -/
theorem Silent.printed_eq (h : x.Silent) : Journal.printed x.notes = "" := by
  have hnone : x.notes.filter Journal.Note.isPrinted = [] :=
    List.filter_eq_nil_iff.2 fun n hn ↦ Bool.eq_false_iff.1 (h n hn)
  rw [Journal.printed, hnone]
  rfl

end TypedSearch.Traced
