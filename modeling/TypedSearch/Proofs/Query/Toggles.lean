import TypedSearch.Proofs.Query.Stages

/-!
# Toggling the ends of a range

Right after a range a builder can settle whether the ends count. Nothing in a builder says that its
last clause is a range whenever it can be toggled; it is an invariant (`Builder.Sound`) that every
step keeps (`Stage.Leads.sound`), and so is that no bound of a page is below zero. A toggle then
always succeeds, and changes a single flag.
-/

namespace TypedSearch.Query

open Outcome

/-! ## What every builder keeps -/

/-- What holds of the builders that can be reached. -/
structure Builder.Sound (b : Builder) : Prop where
  /-- What can be toggled ends in a range. -/
  ends_in_range : b.isRanged = true →
    ∃ init n lower upper flag, b.request.query.clauses = init ++ [.range n lower upper flag]
  start_nonneg : ∀ v ∈ b.request.start, v.isNegative = .ok false
  rows_nonneg : ∀ v ∈ b.request.rows, v.isNegative = .ok false

namespace Builder

variable {b b' : Builder}

theorem sound_start : start.Sound := by
  refine ⟨fun h ↦ ?_, fun v hv ↦ ?_, fun v hv ↦ ?_⟩
  · cases h
  · cases hv
  · cases hv

/-- After a clause is added, a builder can be toggled only if that clause is a range. -/
theorem Sound.addClause (h : b.Sound) (c : Clause) : (b.addClause c).Sound := by
  refine ⟨fun hr ↦ ?_, h.start_nonneg, h.rows_nonneg⟩
  cases c with
  | range n lower upper flag => exact ⟨b.request.query.clauses, n, lower, upper, flag, rfl⟩
  | equality n v => cases hr
  | raw text => cases hr

/-- A builder that cannot be toggled has nothing to say about its last clause. -/
theorem Sound.of_not_ranged (h : b.Sound) (hb : b'.isRanged = false)
    (hp : b'.request.page = b.request.page) :
    b'.Sound := by
  obtain ⟨hs, hr⟩ := Prod.mk.inj hp
  refine ⟨fun h ↦ ?_, ?_, ?_⟩
  · rw [hb] at h
    cases h
  · rw [hs]
    exact h.start_nonneg
  · rw [hr]
    exact h.rows_nonneg

end Builder

namespace Stage

variable {schemaOf : DocumentType → Except Fault Schema} {s s' : Stage} {step : Step}
  {steps : List Step} {l l' : Ledger} {b : Builder}

/-- Every step keeps what holds of builders. -/
theorem Leads.sound (h : Leads schemaOf s step s') (hs : s.base.Sound) : s'.base.Sound := by
  cases h with
  | field b n => exact hs
  | between b n lower => exact hs
  | equals b n hw => exact hs.addClause _
  | upTo b n lower upper => exact hs.addClause _
  | range b n lower upper => exact hs.addClause _
  | whereText b text => exact hs.addClause _
  | orderBy b n hd => exact hs.of_not_ranged rfl rfl
  | byExample hschema hb =>
    obtain ⟨cs, -, rfl⟩ := Builder.byExample_eq_ok_iff.1 hb
    exact hs.of_not_ranged rfl rfl
  | paginate hb =>
    obtain ⟨hstart, hrows, rfl⟩ := Builder.paginate_eq_ok_iff.1 hb
    refine ⟨fun hr ↦ ?_, hstart, hrows⟩
    cases hr
  | toggle ht hr hb =>
    obtain ⟨init, n, lower, upper, flag, hlast⟩ := hs.ends_in_range hr
    cases (Builder.toggle_of_range hlast _).symm.trans hb
    exact ⟨fun _ ↦ ⟨init, n, lower, upper, _, rfl⟩, hs.start_nonneg, hs.rows_nonneg⟩

/-- Every stage that steps reach from the start is sound, by induction over the steps. -/
theorem sound_of_takeAll (h : ((builder .start).takeAll steps).run.run l = (.ok s, l')) :
    s.base.Sound := by
  refine takeAll_invariant (P := fun s ↦ s.base.Sound) (fun schemaOf s step s' _ hs hl ↦
    hl.sound hs) ?_ h
  exact Builder.sound_start

/-- The bounds of a page are integers if none but integers were ever given for one. -/
theorem isSome_integer?_of_takeAll
    (h : ((builder .start).takeAll steps).run.run l = (.ok s, l'))
    (hp : ∀ start rows, .paginate start rows ∈ steps →
      (∀ v ∈ start, v.integer?.isSome = true) ∧ ∀ v ∈ rows, v.integer?.isSome = true) :
    (∀ v ∈ s.base.request.page.1, v.integer?.isSome = true) ∧
      ∀ v ∈ s.base.request.page.2, v.integer?.isSome = true := by
  refine takeAll_invariant (P := fun s ↦ (∀ v ∈ s.base.request.page.1, v.integer?.isSome = true) ∧
    ∀ v ∈ s.base.request.page.2, v.integer?.isSome = true) (fun schemaOf s step s' hstep hs hl ↦ ?_)
      ?_ h
  · rw [hl.page_eq]
    cases step with
    | paginate start rows => exact hp start rows hstep
    | _ => exact hs
  · simp [base, Builder.start, Request.empty, Request.page]

/-! ## What a toggle does -/

/-- Where a toggle is offered, there is a builder that can be toggled. -/
theorem exists_builder_of_offers {inclusive : Bool} (ht : step.inclusivity? = some inclusive)
    (h : s.offers step = true) : ∃ b, s = .builder b ∧ b.isRanged = true := by
  cases s with
  | builder b => cases step <;> cases ht <;> exact ⟨b, rfl, h⟩
  | field b n => cases step <;> cases ht <;> cases h
  | bound b n lower => cases step <;> cases ht <;> cases h

/-- Where a toggle is not offered, asking for it fails for that reason. -/
theorem take_of_not_offers {inclusive : Bool} (ht : step.inclusivity? = some inclusive)
    (h : s.offers step = false) (k : Ledger) : (s.take step).run.run k = (.error s.missing, k) := by
  cases s with
  | builder b =>
    have hb : ¬ b.isRanged = true := by cases step <;> cases ht <;> exact ne_true_of_eq_false h
    cases step <;> cases ht <;> exact congrArg (·, k) (if_neg hb)
  | field b n => cases step <;> cases ht <;> rfl
  | bound b n lower => cases step <;> cases ht <;> rfl

/-- A toggle changes the flag of the range before it and no other clause. -/
theorem take_of_range {inclusive flag : Bool} {init : List Clause} {n : String}
    {lower upper : Value} (ht : step.inclusivity? = some inclusive) (hr : b.isRanged = true)
    (hlast : b.request.query.clauses = init ++ [.range n lower upper flag]) (k : Ledger) :
    ((builder b).take step).run.run k =
      (.ok (.builder (b.withQuery ⟨init ++ [.range n lower upper inclusive]⟩ true)), k) := by
  have hb : (builder b).advance Schema.build step =
      .ok (.builder (b.withQuery ⟨init ++ [.range n lower upper inclusive]⟩ true)) :=
    advance_eq_ok_iff.2 (.toggle ht hr (Builder.toggle_of_range hlast inclusive))
  cases step <;> cases ht <;> exact congrArg (·, k) hb

/-! ## Main statement -/

/-- A builder that offers the toggles ends in a range, and a toggle settles whether the ends of that
range count and does nothing else; of two toggles the second one alone decides. Wherever else it is
asked for, a toggle is missing, so it never fails for want of a range. Pages asked for by integers
have no bound below zero. -/
theorem toggles_of_takeAll (h : ((builder .start).takeAll steps).run.run l = (.ok s, l')) :
    (∀ step inclusive, step.inclusivity? = some inclusive → s.offers step = true →
      ∃ b init n lower upper flag, s = .builder b ∧
        b.request.query.clauses = init ++ [.range n lower upper flag] ∧
        ∀ k, (s.take step).run.run k = (.ok (.builder
          ⟨{ b.request with query := ⟨init ++ [.range n lower upper inclusive]⟩ }, true⟩), k)) ∧
    (∀ first last, first.inclusivity? ≠ none → last.inclusivity? ≠ none → s.offers first = true →
      ∀ k, (s.takeAll [first, last]).run.run k = (s.take last).run.run k) ∧
    (∀ step, step.inclusivity? ≠ none →
      ∀ k f, ((s.take step).run.run k).1 = .error f → f.kind ≠ "QueryBuilderError") ∧
    ((∀ start rows, .paginate start rows ∈ steps →
        (∀ v ∈ start, v.integer?.isSome = true) ∧ ∀ v ∈ rows, v.integer?.isSome = true) →
      (∀ v ∈ s.base.request.start, ∃ n, v.integer? = some n ∧ 0 ≤ n) ∧
        ∀ v ∈ s.base.request.rows, ∃ n, v.integer? = some n ∧ 0 ≤ n) := by
  have hs := sound_of_takeAll h
  -- everything about toggles follows from what one of them does where it is offered
  have htoggle : ∀ {step inclusive}, step.inclusivity? = some inclusive → s.offers step = true →
      ∃ b init n lower upper flag, s = .builder b ∧ b.isRanged = true ∧
        b.request.query.clauses = init ++ [.range n lower upper flag] := by
    intro step inclusive ht ho
    obtain ⟨b, rfl, hr⟩ := exists_builder_of_offers ht ho
    obtain ⟨init, n, lower, upper, flag, hlast⟩ := hs.ends_in_range hr
    exact ⟨b, init, n, lower, upper, flag, rfl, hr, hlast⟩
  refine ⟨fun step inclusive ht ho ↦ ?_, fun first last hf hl ho k ↦ ?_, fun step ht k f hf ↦ ?_,
    fun hp ↦ ?_⟩
  · obtain ⟨b, init, n, lower, upper, flag, rfl, hr, hlast⟩ := htoggle ht ho
    exact ⟨b, init, n, lower, upper, flag, rfl, hlast, take_of_range ht hr hlast⟩
  · obtain ⟨i, hi⟩ := Option.ne_none_iff_exists'.1 hf
    obtain ⟨j, hj⟩ := Option.ne_none_iff_exists'.1 hl
    obtain ⟨b, init, n, lower, upper, flag, rfl, hr, hlast⟩ := htoggle hi ho
    rw [takeAll_cons, Resolving.run_bind_of_ok (take_of_range hi hr hlast k), takeAll_singleton,
      take_of_range hj rfl rfl, take_of_range hj hr hlast]
    rfl
  · obtain ⟨inclusive, ht⟩ := Option.ne_none_iff_exists'.1 ht
    cases ho : s.offers step with
    | true =>
      obtain ⟨b, init, n, lower, upper, flag, rfl, hr, hlast⟩ := htoggle ht ho
      rw [take_of_range ht hr hlast] at hf
      cases hf
    | false =>
      rw [take_of_not_offers ht ho] at hf
      cases hf
      exact (by decide : "AttributeError" ≠ "QueryBuilderError")
  · obtain ⟨hstart, hrows⟩ := isSome_integer?_of_takeAll h hp
    have hnonneg : ∀ {v : Value}, v.integer?.isSome = true → v.isNegative = .ok false →
        ∃ n, v.integer? = some n ∧ 0 ≤ n := by
      intro v hv hn
      obtain ⟨n, hv⟩ := Option.isSome_iff_exists.1 hv
      rw [Value.isNegative_of_integer? hv] at hn
      exact ⟨n, hv, by simpa using Except.ok.inj hn⟩
    exact ⟨fun v hv ↦ hnonneg (hstart v hv) (hs.start_nonneg v hv),
      fun v hv ↦ hnonneg (hrows v hv) (hs.rows_nonneg v hv)⟩

def yearSteps : List Step :=
  [.paginate (some (.int 10)) none, .field "year", .between (.int 1937), .upTo (.int 1955)]

theorem toggles_of_takeAll_yearSteps : ∃ s,
    ((builder .start).takeAll yearSteps).run.run ⟨.empty, []⟩ = (.ok s, ⟨.empty, []⟩) ∧
      s.offers .exclusive = true ∧
        (∃ b, (s.take .exclusive).run.run ⟨.empty, []⟩ = (.ok (.builder b), ⟨.empty, []⟩) ∧
          b.request.query.clauses = [.range "year" (.int 1937) (.int 1955) false]) ∧
      ∀ v ∈ s.base.request.start, ∃ n, v.integer? = some n ∧ 0 ≤ n := by
  have h : ((builder .start).takeAll yearSteps).run.run ⟨.empty, []⟩ =
      (.ok (.builder ⟨⟨⟨[.range "year" (.int 1937) (.int 1955) true]⟩, .empty, some (.int 10),
        none⟩, true⟩), ⟨.empty, []⟩) := rfl
  obtain ⟨htoggle, -, -, hpage⟩ := toggles_of_takeAll h
  refine ⟨_, h, rfl, ?_, (hpage ?_).1⟩
  · obtain ⟨b, init, n, lower, upper, flag, hb, hlast, htake⟩ := htoggle .exclusive false rfl rfl
    cases hb
    obtain ⟨rfl, hlast⟩ := List.append_inj' (show [] ++ [_] = init ++ [_] from hlast) rfl
    cases hlast
    exact ⟨_, htake _, rfl⟩
  · intro start rows hp
    simp only [yearSteps, List.mem_cons, List.not_mem_nil, reduceCtorEq, or_false,
      Step.paginate.injEq] at hp
    obtain ⟨rfl, rfl⟩ := hp
    exact ⟨fun v hv ↦ by cases hv; rfl, fun v hv ↦ by cases hv⟩

end Stage

end TypedSearch.Query
