import TypedSearch.Proofs.Client.Plans
import TypedSearch.Proofs.Document.Lookup
import TypedSearch.Proofs.Journal

/-!
# Operations that print nothing

Nothing is printed while an operation is performed but by the types of members that are called to
read a text. So a mapper prints nothing if no member of its schema does (`Mapper.silent_map`), a
reader of responses prints what its mapper prints, and an operation that plans to read no page of a
schema with such a member prints nothing at all (`Session.silent_perform`).
-/

namespace TypedSearch

open Outcome

/-- Does no member print while it takes an entry? -/
def Schema.IsSilent (s : Schema) : Prop := ∀ f ∈ s.fields, ∀ e, f.printed e = []

/-! ## Reading pages -/

namespace Mapper

variable {m : Mapper}

theorem silent_step (h : m.schema.IsSilent) (d : Document) (e : Entry) : (m.step d e).Silent := by
  unfold step
  split
  · rename_i f hf
    rw [h f (Schema.mem_of_lookup hf)]
    exact Traced.Silent.bind nofun fun _ _ ↦ Traced.Silent.bind nofun fun _ _ ↦ nofun
  · split
    · exact nofun
    · exact Traced.Silent.bind (List.forall_mem_singleton.2 rfl) fun _ _ ↦ nofun

/-- Mapping prints nothing for a schema that is silent. -/
theorem silent_map (h : m.schema.IsSilent) (r : Record) : (m.map r).Silent :=
  Traced.Silent.bind nofun fun d _ ↦ Traced.silent_foldlM (silent_step h) r.entries d

end Mapper

namespace ResponseReader

variable {r : ResponseReader}

theorem silent_collect (h : r.mapper.schema.IsSilent) (i : Nat) (es : List Markup.Element) :
    (r.collect i es).Silent := by
  induction es generalizing i with
  | nil => exact nofun
  | cons e es ih =>
    refine Traced.Silent.bind nofun fun record _ ↦
      Traced.Silent.bind (x := (r.mapper.map record).attempt) (Mapper.silent_map h record)
        fun outcome _ ↦ ?_
    cases outcome with
    | ok d => exact (ih (i + 1)).bind fun _ _ ↦ nofun
    | error f =>
      by_cases hs : (r.skipInvalid && f.isDomain) = true
      · simp only [hs]
        exact Traced.Silent.bind (List.forall_mem_singleton.2 rfl) fun _ _ ↦ ih (i + 1)
      · simp only [hs]
        exact nofun

/-- Nor does reading a response into such documents. -/
theorem silent_read (h : r.mapper.schema.IsSilent) (s : Markup.Source) : (r.read s).Silent :=
  Traced.Silent.bind nofun fun _ _ ↦ Traced.Silent.bind nofun fun result _ ↦
    Traced.Silent.bind nofun fun _ _ ↦ (silent_collect h 0 (result.childrenNamed "doc")).bind
      fun _ _ ↦ nofun

end ResponseReader

theorem Client.silent_readPage {s : Schema} (h : s.IsSilent) (c : Client) (reply : String) :
    (c.readPage s reply).Silent :=
  (ResponseReader.silent_read (r := c.reader s) h (.text reply)).bind fun _ _ ↦ nofun

/-! ## Preparing operations -/

namespace Resolving

variable {α β : Type} {x : Resolving α} {f : α → Resolving β}

/-- Does a computation leave nothing printed in the ledger that was not there? -/
def Silent (x : Resolving α) : Prop :=
  ∀ l : Ledger, (∀ n ∈ l.notes, n.isPrinted = false) → ∀ n ∈ (x.run.run l).2.notes, n.isPrinted =
    false

theorem silent_ofExcept (y : Except Fault α) : (ofExcept y).Silent := fun _ h ↦ h

theorem silent_pure (a : α) : (pure a : Resolving α).Silent := fun _ h ↦ h

theorem silent_throw (e : Fault) : (throw e : Resolving α).Silent := fun _ h ↦ h

theorem silent_note {n : Journal.Note} (hn : n.isPrinted = false) : (note n).Silent := fun _ h ↦
  List.forall_mem_append.2 ⟨h, List.forall_mem_singleton.2 hn⟩

/-- Computations that print nothing compose. -/
theorem Silent.bind (hx : x.Silent) (hf : ∀ a, (f a).Silent) : (x >>= f).Silent := by
  intro l hl
  have hl := hx l hl
  rcases hrun : x.run.run l with ⟨e | a, l₁⟩
  · rw [hrun] at hl
    rwa [run_bind_of_error hrun]
  · rw [hrun] at hl
    rw [run_bind_of_ok hrun]
    exact hf a l₁ hl

theorem silent_mapM {f : α → Resolving β} (hf : ∀ a, (f a).Silent) (as : List α) :
    (as.mapM f).Silent := by
  induction as with
  | nil => exact silent_pure []
  | cons a as ih =>
    rw [List.mapM_cons]
    exact (hf a).bind fun b ↦ ih.bind fun bs ↦ silent_pure (b :: bs)

/-- Looking a schema up prints nothing; what is noted is that a schema was built. -/
theorem silent_resolve (c : Candidate) : (resolve c).Silent := by
  intro l hl
  rw [run_resolve]
  split
  · rename_i s r ns hr
    obtain ⟨t, rfl⟩ := Registry.exists_type_of_resolve hr
    rcases Registry.resolve_type_eq_ok_iff.1 hr with ⟨-, -, rfl⟩ | ⟨-, -, -, rfl⟩
    · simpa using hl
    · exact List.forall_mem_append.2 ⟨hl, List.forall_mem_singleton.2 rfl⟩
  · exact hl

end Resolving

namespace Client

theorem silent_command (e : Markup.Element) : (command e).Silent :=
  (Resolving.silent_note rfl).bind fun _ ↦ Resolving.silent_pure _

theorem silent_select (c : Client) (s : Schema) (r : Query.Request) : (c.select s r).Silent :=
  (Resolving.silent_ofExcept r.params).bind fun _ ↦ (Resolving.silent_note rfl).bind fun _ ↦
    Resolving.silent_pure _

theorem silent_take (stage : Query.Stage) (step : Query.Step) : (stage.take step).Silent := by
  unfold Query.Stage.take
  split
  · exact (Resolving.silent_resolve _).bind fun _ ↦ Resolving.silent_ofExcept _
  · exact Resolving.silent_ofExcept _

/-- No step of a query prints. -/
theorem silent_continueQuery (c : Client) (s : Schema) (stage : Query.Stage)
    (steps : List Query.Step) :
    (c.continueQuery s stage steps).Silent := by
  induction steps generalizing stage with
  | nil => exact Resolving.silent_throw unfinished
  | cons step steps ih =>
    unfold continueQuery
    split
    case h_1 hnil => cases hnil
    case h_2 => exact (c.silent_select s _).bind fun _ ↦ Resolving.silent_pure _
    case h_3 => exact (Resolving.silent_ofExcept _).bind fun _ ↦ Resolving.silent_throw unfinished
    case h_4 hsteps =>
      cases hsteps
      exact (silent_take _ _).bind ih

/-- An operation is prepared without anything being printed. -/
theorem silent_prepare (c : Client) (o : Operation) : (c.prepare o).Silent := by
  have hcommand (e : Markup.Element) : (command e >>= fun x ↦ pure (Plan.exchange x)).Silent :=
    (silent_command e).bind fun _ ↦ Resolving.silent_pure _
  cases o with
  | register d => exact (Resolving.silent_resolve d).bind fun _ ↦ Resolving.silent_pure _
  | search d query sort start rows =>
    exact (Resolving.silent_ofExcept _).bind fun r ↦ (Resolving.silent_resolve d).bind fun s ↦
      (c.silent_select s r).bind fun _ ↦ Resolving.silent_pure _
  | query d steps =>
    exact (Resolving.silent_resolve d).bind fun s ↦ (c.silent_continueQuery s _ steps).bind fun _ ↦
      Resolving.silent_pure _
  | add documents =>
    refine (Resolving.silent_mapM (fun d ↦ ?_) documents).bind fun rows ↦
      hcommand (Update.addElement rows)
    exact (Resolving.silent_resolve (.type d.type)).bind fun s ↦ Resolving.silent_ofExcept
      (Update.fieldsOf s d)
  | deleteByIds ids => exact (Resolving.silent_ofExcept (Update.deleteByIds ids)).bind hcommand
  | deleteByQuery query =>
    exact (Resolving.silent_ofExcept query.render).bind fun text ↦
      hcommand (Update.deleteByQueryText text)
  | flush f w => exact hcommand (Update.flushElement f w)

end Client

/-! ## Performing operations -/

/-- Does reading the reply to the call of a plan print nothing? -/
def Plan.IsSilent : Plan → Prop
  | .settled _ => True
  | .exchange e => ∀ reply, (e.read reply).Silent

/-- An operation prints nothing if its plan reads the reply without printing, and the way to the
server prints nothing either. -/
theorem Session.silent_perform {σ : Type} {s : Session σ} (h : s.registry.Sound) {client : Client}
    {connection : Connection σ} {o : Operation}
    (hsend : ∀ call link, (connection.send call link).1.Silent)
    (hplan : ∀ plan, client.plan o = .ok plan → plan.IsSilent) :
    (s.perform client connection o).1.Silent := by
  have hnotes := client.silent_prepare o ⟨s.registry, []⟩ nofun
  obtain ⟨hcomes, -⟩ := client.comes_prepare o ⟨s.registry, []⟩ h
  unfold perform
  rcases hrun : (client.prepare o).run.run ⟨s.registry, []⟩ with ⟨e | plan, ledger⟩
  · rw [hrun] at hnotes
    exact hnotes
  · rw [hrun] at hnotes hcomes
    refine List.forall_mem_append.2 ⟨hnotes, ?_⟩
    have hread := hplan plan hcomes.symm
    cases plan with
    | settled a => exact nofun
    | exchange e => exact (hsend e.call s.link).bind fun reply _ ↦ hread reply

end TypedSearch
