import TypedSearch.Document.Registry
import TypedSearch.Proofs.Document.Fields

/-!
# What a registry answers

A registry answers with the schemas that it keeps, and builds and keeps those that it does not. As
long as all that it keeps was built (`Registry.Sound`), nobody can tell from an answer what was
asked before: it is the schema that would be built (`Registry.Sound.answer_eq`), and the registry
stays sound.

What a computation that looks schemas up does is the same said for its two parts, result and ledger.
Those that are put together from such computations come to a result of their own from every sound
registry (`Resolving.Comes`).
-/

namespace TypedSearch

open Outcome

/-- The schema of what is offered as a document type, built anew. -/
def Candidate.build (c : Candidate) : Except Fault Schema := do
  c.checkHashable
  Schema.build (← c.type?)

namespace Registry

variable {r r' : Registry} {t : DocumentType} {s : Schema} {c : Candidate} {ns : List Journal.Note}

/-- Was every schema that a registry keeps built for its document type? -/
def Sound (r : Registry) : Prop := ∀ t s, r.get? t = some s → Schema.build t = .ok s

theorem sound_empty : empty.Sound := by
  intro t s h
  cases h

/-- A schema is kept under its type unless one is there already. -/
theorem get?_insert (r : Registry) (s : Schema) (t : DocumentType) :
    (r.insert s).get? t = (r.get? t).or (if t = s.type then some s else none) := by
  unfold get? insert
  rw [List.lookup_append]
  by_cases h : t = s.type
  · rw [h, List.lookup_cons_self, if_pos rfl]
  · rw [List.lookup_cons, beq_false_of_ne h, List.lookup_nil, if_neg h]

/-- A schema that was built may be kept. -/
theorem Sound.insert (h : r.Sound) (hs : Schema.build t = .ok s) : (r.insert s).Sound := by
  intro u z hz
  rw [get?_insert] at hz
  rcases Option.or_eq_some_iff.1 hz with hz | ⟨-, hz⟩
  · exact h u z hz
  · split at hz
    · rename_i hu
      obtain rfl := Option.some.inj hz
      rw [hu, (Schema.sound_of_build hs).2, hs]
    · cases hz

/-- A type that is kept is answered without building. -/
theorem resolve_of_kept (h : r.get? t = some s) : r.resolve (.type t) = .ok (s, r, []) := by
  refine bind_eq_ok.2 ⟨_, rfl, bind_eq_ok.2 ⟨t, rfl, ?_⟩⟩
  rw [h]
  rfl

/-- A type that is missing is built, kept and noted. -/
theorem resolve_of_missing (h : r.get? t = none) : r.resolve (.type t) =
    (Schema.build t).map fun s ↦ (s, r.insert s, [Schema.resolvedNote t s.fields.length]) := by
  simp only [resolve, Candidate.checkHashable, Candidate.type?, bind, Except.bind, h]
  rfl

/-- A registry answers in one of two ways: it keeps the schema already, or builds and keeps it. -/
theorem resolve_type_eq_ok_iff : r.resolve (.type t) = .ok (s, r', ns) ↔
    (r.get? t = some s ∧ r' = r ∧ ns = []) ∨
      (r.get? t = none ∧ Schema.build t = .ok s ∧ r' = r.insert s ∧
        ns = [Schema.resolvedNote t s.fields.length]) := by
  cases ht : r.get? t with
  | some z =>
    rw [resolve_of_kept ht]
    constructor
    · intro h
      cases h
      exact .inl ⟨rfl, rfl, rfl⟩
    · rintro (⟨hz, rfl, rfl⟩ | ⟨hz, -⟩)
      · obtain rfl := Option.some.inj hz
        rfl
      · cases hz
  | none =>
    rw [resolve_of_missing ht, map_eq_ok]
    constructor
    · rintro ⟨z, hz, h⟩
      cases h
      exact .inr ⟨rfl, hz, rfl, rfl⟩
    · rintro (⟨hz, -⟩ | ⟨-, hz, rfl, rfl⟩)
      · cases hz
      · exact ⟨s, hz, rfl⟩

/-- What is no class is never answered. -/
theorem exists_type_of_resolve (h : r.resolve c = .ok (s, r', ns)) : ∃ t, c = .type t := by
  cases c with
  | type t => exact ⟨t, rfl⟩
  | value v =>
    obtain ⟨_, -, h⟩ := bind_eq_ok.1 h
    obtain ⟨_, h, -⟩ := bind_eq_ok.1 h
    cases h

/-- An answer leaves a registry sound. -/
theorem Sound.of_resolve (h : r.Sound) (hr : r.resolve c = .ok (s, r', ns)) : r'.Sound := by
  obtain ⟨t, rfl⟩ := exists_type_of_resolve hr
  rcases resolve_type_eq_ok_iff.1 hr with ⟨-, rfl, -⟩ | ⟨-, hs, rfl, -⟩
  · exact h
  · exact h.insert hs

def answer (r : Registry) (t : DocumentType) : Except Fault Schema :=
  (r.resolve (.type t)).map Prod.fst

/-- A sound registry answers with what would be built. -/
theorem Sound.answer_eq (h : r.Sound) : r.answer = Schema.build := by
  funext t
  unfold answer
  cases ht : r.get? t with
  | some s => rw [resolve_of_kept ht, h t s ht, Except.map]
  | none =>
    rw [resolve_of_missing ht]
    cases Schema.build t <;> rfl

/-- A sound registry answers as building does. -/
theorem Sound.map_resolve_eq (h : r.Sound) (c : Candidate) :
    (r.resolve c).map Prod.fst = c.build := by
  cases c with
  | type t => exact congrFun h.answer_eq t
  | value v =>
    unfold resolve Candidate.build
    cases (Candidate.value v).checkHashable <;> rfl

end Registry

namespace Resolving

variable {α β : Type} {x : Resolving α} {f : α → Resolving β} {l l' : Ledger}

theorem run_bind_of_ok {a : α} (h : x.run.run l = (.ok a, l')) :
    (x >>= f).run.run l = (f a).run.run l' := by
  change (x.run >>= ExceptT.bindCont f).run l = _
  rw [StateT.run_bind, h]
  rfl

theorem run_bind_of_error {e : Fault} (h : x.run.run l = (.error e, l')) :
    (x >>= f).run.run l = (.error e, l') := by
  change (x.run >>= ExceptT.bindCont f).run l = _
  rw [StateT.run_bind, h]
  rfl

/-- A sequence goes through iff both of its parts do, the second one from the ledger that the first
one leaves. -/
theorem run_bind_eq_ok_iff {b : β} : (x >>= f).run.run l = (.ok b, l') ↔
    ∃ a l₁, x.run.run l = (.ok a, l₁) ∧ (f a).run.run l₁ = (.ok b, l') := by
  constructor
  · intro h
    rcases hx : x.run.run l with ⟨e | a, l₁⟩
    · rw [run_bind_of_error hx] at h
      cases h
    · rw [run_bind_of_ok hx] at h
      exact ⟨a, l₁, rfl, h⟩
  · rintro ⟨a, l₁, hx, hf⟩
    rw [run_bind_of_ok hx, hf]

/-- A schema is looked up in the registry, and what that answers goes to the ledger. -/
theorem run_resolve (c : Candidate) (l : Ledger) : (resolve c).run.run l =
    match l.registry.resolve c with
    | .ok (s, r, ns) => (.ok s, ⟨r, l.notes ++ ns⟩)
    | .error e => (.error e, l) := by
  have hget : (get : Resolving Ledger).run.run l = (.ok l, l) := rfl
  unfold resolve
  rw [run_bind_of_ok hget]
  cases h : l.registry.resolve c with
  | ok a => exact run_bind_of_ok (run_ofExcept (.ok a) l)
  | error e => exact run_bind_of_error (run_ofExcept (.error e) l)

/-- Looking a schema up leaves a registry sound. -/
theorem sound_run_resolve (c : Candidate) (h : l.registry.Sound) :
    ((resolve c).run.run l).2.registry.Sound := by
  rw [run_resolve]
  split
  · rename_i hr
    exact h.of_resolve hr
  · exact h

/-! ## Computations that do not depend on the registry -/

/-- Does a computation come to one result from whatever sound registry it starts, and leave the
registry sound? -/
def Comes (x : Resolving α) (y : Except Fault α) : Prop :=
  ∀ l : Ledger, l.registry.Sound → (x.run.run l).1 = y ∧ (x.run.run l).2.registry.Sound

theorem comes_ofExcept (y : Except Fault α) : (ofExcept y).Comes y := fun _ h ↦ ⟨rfl, h⟩

theorem comes_pure (a : α) : (pure a : Resolving α).Comes (.ok a) := fun _ h ↦ ⟨rfl, h⟩

theorem comes_throw (e : Fault) : (throw e : Resolving α).Comes (.error e) := fun _ h ↦ ⟨rfl, h⟩

/-- A note in front does not change what a computation comes to. -/
theorem Comes.after_note {y : Except Fault α} (hx : x.Comes y) (n : Journal.Note) :
    (note n >>= fun _ ↦ x).Comes y := fun l hl ↦ hx ⟨l.registry, l.notes ++ [n]⟩ hl

/-- A sequence comes to the sequence of what its parts come to. -/
theorem Comes.bind {y : Except Fault α} {g : α → Except Fault β} (hx : x.Comes y)
    (hf : ∀ a, (f a).Comes (g a)) :
    (x >>= f).Comes (y >>= g) := by
  intro l hl
  obtain ⟨hy, hl⟩ := hx l hl
  rcases hrun : x.run.run l with ⟨e | a, l₁⟩
  · rw [hrun] at hy hl
    rw [run_bind_of_error hrun, ← hy]
    exact ⟨rfl, hl⟩
  · rw [hrun] at hy hl
    rw [run_bind_of_ok hrun, ← hy]
    exact hf a l₁ hl

theorem Comes.map {y : Except Fault α} (hx : x.Comes y) (g : α → β) :
    (x >>= fun a ↦ pure (g a)).Comes (y.map g) := by
  have h := hx.bind fun a ↦ comes_pure (g a)
  cases y <;> exact h

/-- Rows come to what their members come to. -/
theorem comes_mapM {as : List α} {f : α → Resolving β} {g : α → Except Fault β}
    (h : ∀ a, (f a).Comes (g a)) :
    (as.mapM f).Comes (as.mapM g) := by
  induction as with
  | nil => exact comes_pure []
  | cons a as ih =>
    rw [List.mapM_cons, List.mapM_cons]
    exact (h a).bind fun b ↦ ih.bind fun bs ↦ comes_pure (b :: bs)

/-- Looking a schema up comes to building it. -/
theorem comes_resolve (c : Candidate) : (resolve c).Comes c.build := by
  intro l hl
  refine ⟨?_, sound_run_resolve c hl⟩
  rw [run_resolve, ← hl.map_resolve_eq c]
  cases l.registry.resolve c <;> rfl

end Resolving

end TypedSearch
