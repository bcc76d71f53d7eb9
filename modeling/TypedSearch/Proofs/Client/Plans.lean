import TypedSearch.Proofs.Client.Search

/-!
# Plans of a client

What an operation comes to can be told without a registry (`Client.plan`): from every sound registry
a client prepares just that (`Client.comes_prepare`). All that is known about an operation that is
performed is read off its plan: the call that it makes, which is one at most
(`Session.link_perform`), and what it gives when that call is answered (`Session.result_perform`).
-/

namespace TypedSearch

open Outcome Query

/-! ## Plans told without a registry -/

def Update.rowOf (d : Document) : Except Fault (List (String × String)) := do
  fieldsOf (← (Candidate.type d.type).build) d

namespace Client

/-- The exchange that asks for what a request describes. -/
def question (c : Client) (s : Schema) (r : Request) : Except Fault Exchange := do
  return ⟨.get selectPath (← r.params), c.readPage s⟩

def order (e : Markup.Element) : Exchange :=
  ⟨.post updatePath (Update.body e), fun reply ↦ pure (.reply reply)⟩

/-- How a query ends at a stage, given the steps from the one that ends it. -/
def ending (c : Client) (s : Schema) : Stage → List Step → Except Fault Exchange
  | _, [] => .error unfinished
  | .builder b, .run :: rest =>
    (c.question s b.request).map fun e ↦ if rest.isEmpty then e else e.failAfter unfinished
  | .builder b, .toQuery :: _ => do
    let _ ← b.request.query.render
    .error unfinished
  | stage, _ :: _ => .error stage.missing

/-- What becomes of a query that goes on from a stage: the steps up to the one that ends it are
taken first. -/
def follow (c : Client) (s : Schema) (stage : Stage) (steps : List Step) :
    Except Fault Exchange := do
  let stage ← stage.advanceAll Schema.build (steps.takeWhile (!·.isEnd))
  c.ending s stage (steps.dropWhile (!·.isEnd))

def plan (c : Client) : Operation → Except Fault Plan
  | .register d => d.build.map fun s ↦ .settled (.schema s)
  | .search d query sort start rows => do
    let request ← Request.make query.toExpression sort.toSorting start rows
    let s ← d.build
    (c.question s request).map .exchange
  | .query d steps => do
    let s ← d.build
    (c.follow s (.builder .start) steps).map .exchange
  | .add documents =>
    do return .exchange (order (Update.addElement (← documents.mapM Update.rowOf)))
  | .deleteByIds ids => do return .exchange (order (← Update.deleteByIds ids))
  | .deleteByQuery query => do return .exchange (order (Update.deleteByQueryText (← query.render)))
  | .flush f w => .ok (.exchange (order (Update.flushElement f w)))

variable {c : Client} {s : Schema} {stage : Stage} {step : Step} {steps : List Step}

/-- A selection comes to the question of its request. -/
theorem comes_select (c : Client) (s : Schema) (r : Request) :
    (c.select s r).Comes (c.question s r) :=
  (Resolving.comes_ofExcept r.params).bind fun params ↦ (Resolving.comes_pure _).after_note
    (selectNote params)

theorem comes_command (e : Markup.Element) :
    (command e >>= fun x ↦ pure (Plan.exchange x)).Comes (.ok (.exchange (order e))) :=
  Resolving.Comes.map ((Resolving.comes_pure (order e)).after_note (updateNote (Update.body e)))
    Plan.exchange

/-- A step that registers schemas on its way advances as one that builds them afresh. -/
theorem comes_take (stage : Stage) (step : Step) :
    (stage.take step).Comes (stage.advance Schema.build step) :=
  fun l hl ↦ ⟨by rw [Stage.result_take, hl.answer_eq], Stage.sound_take stage step hl⟩

theorem comes_ending (h : ∀ step ∈ steps.head?, step.isEnd = true) :
    (c.continueQuery s stage steps).Comes (c.ending s stage steps) := by
  cases steps with
  | nil => exact Resolving.comes_throw unfinished
  | cons step rest =>
    have hend := h step rfl
    cases stage with
    | builder b =>
      cases step with
      | run =>
        exact (c.comes_select s b.request).map fun e ↦ if rest.isEmpty then e
          else e.failAfter unfinished
      | toQuery =>
        exact (Resolving.comes_ofExcept b.request.query.render).bind fun _ ↦ Resolving.comes_throw
          unfinished
      | _ => cases hend
    | field | bound =>
      cases step with
      | run | toQuery => exact Resolving.comes_throw _
      | _ => cases hend

/-- A query goes on as told without a registry. -/
theorem comes_continueQuery (c : Client) (s : Schema) (stage : Stage) (steps : List Step) :
    (c.continueQuery s stage steps).Comes (c.follow s stage steps) := by
  induction steps generalizing stage with
  | nil => exact comes_ending (by simp)
  | cons step steps ih =>
    cases h : step.isEnd with
    | true =>
      have hfollow : c.follow s stage (step :: steps) = c.ending s stage (step :: steps) := by
        simp [follow, h, bind, Except.bind]
      rw [hfollow]
      exact comes_ending (by simpa using h)
    | false =>
      have hfollow : c.follow s stage (step :: steps) =
          stage.advance Schema.build step >>= fun stage ↦ c.follow s stage steps := by
        simp [follow, h, Stage.advanceAll, bind_assoc]
      rw [continueQuery_cons h, hfollow]
      exact (comes_take stage step).bind ih

/-- From every sound registry an operation is prepared to its plan. -/
theorem comes_prepare (c : Client) (o : Operation) : (c.prepare o).Comes (c.plan o) := by
  cases o with
  | register d => exact (Resolving.comes_resolve d).map fun s ↦ Plan.settled (.schema s)
  | search d query sort start rows =>
    exact (Resolving.comes_ofExcept _).bind fun r ↦ (Resolving.comes_resolve d).bind fun s ↦
      (c.comes_select s r).map Plan.exchange
  | query d steps =>
    exact (Resolving.comes_resolve d).bind fun s ↦
      (c.comes_continueQuery s (.builder .start) steps).map Plan.exchange
  | add documents =>
    refine (Resolving.comes_mapM fun d ↦ ?_).bind fun rows ↦ comes_command (Update.addElement rows)
    exact (Resolving.comes_resolve (.type d.type)).bind fun s ↦ Resolving.comes_ofExcept
      (Update.fieldsOf s d)
  | deleteByIds ids => exact (Resolving.comes_ofExcept (Update.deleteByIds ids)).bind comes_command
  | deleteByQuery query =>
    exact (Resolving.comes_ofExcept query.render).bind fun text ↦
      comes_command (Update.deleteByQueryText text)
  | flush f w => exact comes_command (Update.flushElement f w)

end Client

/-! ## Performing what is planned -/

/-- The call that a plan wants, if it wants one. -/
def Plan.call? : Plan → Option Call
  | .settled _ => none
  | .exchange e => some e.call

/-- What a plan gives where calls are answered as `reply` says. -/
def Plan.answer (reply : Call → Except Fault String) : Plan → Except Fault Answer
  | .settled a => .ok a
  | .exchange e => do (e.read (← reply e.call)).result

/-- Only the answer to the call that a plan wants matters. -/
theorem Plan.answer_congr {p : Plan} {reply reply' : Call → Except Fault String}
    (h : ∀ call ∈ p.call?, reply call = reply' call) : p.answer reply = p.answer reply' := by
  cases p with
  | settled a => rfl
  | exchange e => exact congrArg (· >>= fun text ↦ (e.read text).result) (h e.call rfl)

/-- The call that an operation wants, if it wants one. -/
def Client.call? (c : Client) (o : Operation) : Option Call := (c.plan o).toOption.bind Plan.call?

/-- What answers questions, with a list of those that it was asked. -/
def recorded {α β σ : Type} (answer : α → σ → β × σ) (question : α) (s : σ × List α) :
    β × (σ × List α) :=
  ((answer question s.1).1, (answer question s.1).2, s.2 ++ [question])

def Connection.recorded {σ : Type} (c : Connection σ) : Connection (σ × List Call) :=
  ⟨TypedSearch.recorded c.send⟩

namespace Session

variable {σ : Type} {s : Session σ}

def calls (s : Session σ) (client : Client) (connection : Connection σ) (o : Operation) :
    List Call :=
  ((⟨s.registry, s.link, []⟩ : Session (σ × List Call)).perform client connection.recorded
    o).2.link.2

/-- An operation ends in one of two ways: without a plan it fails and leaves the link as it is, and
a plan is carried out. Either way the registry is left sound. -/
theorem perform_cases (h : s.registry.Sound) (client : Client) (connection : Connection σ)
    (o : Operation) :
    ∃ notes, ∃ registry : Registry, registry.Sound ∧
      ((∃ e, client.plan o = .error e ∧
          s.perform client connection o = (⟨notes, .error e⟩, ⟨registry, s.link⟩)) ∨
        ∃ plan, client.plan o = .ok plan ∧ s.perform client connection o =
          (⟨notes ++ (carryOut connection s.link plan).1.notes,
            (carryOut connection s.link plan).1.result⟩,
            ⟨registry, (carryOut connection s.link plan).2⟩)) := by
  obtain ⟨hplan, hsound⟩ := client.comes_prepare o ⟨s.registry, []⟩ h
  unfold perform
  rcases hrun : (client.prepare o).run.run ⟨s.registry, []⟩ with ⟨e | plan, ledger⟩
  · rw [hrun] at hplan hsound
    exact ⟨ledger.notes, ledger.registry, hsound, .inl ⟨e, hplan.symm, rfl⟩⟩
  · rw [hrun] at hplan hsound
    exact ⟨ledger.notes, ledger.registry, hsound, .inr ⟨plan, hplan.symm, rfl⟩⟩

/-- An operation leaves the registry sound. -/
theorem sound_perform (h : s.registry.Sound) (client : Client) (connection : Connection σ)
    (o : Operation) :
    (s.perform client connection o).2.registry.Sound := by
  obtain ⟨notes, registry, hsound, ⟨e, -, hperform⟩ | ⟨plan, -, hperform⟩⟩ :=
    perform_cases h client connection o
  all_goals
    rw [hperform]
    exact hsound

/-- An operation gives what its plan gives when the connection answers the call. -/
theorem result_perform (h : s.registry.Sound) (client : Client) (connection : Connection σ)
    (o : Operation) :
    (s.perform client connection o).1.result =
      client.plan o >>= Plan.answer fun call ↦ (connection.send call s.link).1.result := by
  obtain ⟨notes, registry, -, ⟨e, hplan, hperform⟩ | ⟨plan, hplan, hperform⟩⟩ :=
    perform_cases h client connection o
  · rw [hperform, hplan]
    rfl
  · rw [hperform, hplan]
    cases plan with
    | settled a => rfl
    | exchange e => exact Traced.result_bind ..

/-- An operation makes the call that it wants, and no other. -/
theorem link_perform (h : s.registry.Sound) (client : Client) (connection : Connection σ)
    (o : Operation) :
    (s.perform client connection o).2.link =
      (client.call? o).elim s.link fun call ↦ (connection.send call s.link).2 := by
  unfold Client.call?
  obtain ⟨notes, registry, -, ⟨e, hplan, hperform⟩ | ⟨plan, hplan, hperform⟩⟩ :=
    perform_cases h client connection o
  · rw [hperform, hplan]
    rfl
  · rw [hperform, hplan]
    cases plan <;> rfl

/-- An operation makes the call of its plan, whatever the registry has seen. -/
theorem calls_eq (h : s.registry.Sound) (client : Client) (connection : Connection σ)
    (o : Operation) :
    s.calls client connection o = (client.call? o).toList := by
  have hlink := link_perform (s := (⟨s.registry, s.link, []⟩ : Session (σ × List Call))) h client
    connection.recorded o
  rw [calls, hlink]
  cases client.call? o <;> rfl

end Session

end TypedSearch
