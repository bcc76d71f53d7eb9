import TypedSearch.Client.Session
import TypedSearch.Proofs.Document.Fields
import TypedSearch.Proofs.Query.Toggles

/-!
# Two ways to search

A search can be asked for at once, or built step by step and run. Both come to the same request
(`Client.continueQuery_searchSteps`), which is checked in the same place, so a session can not tell
them apart: it makes the same calls and gives the same results and faults
(`Session.search_eq_query`). The one thing that differs is when the schema is looked up. A request
that is refused at once is refused before that, and a query that is built has looked the schema up
by then, which the registry remembers.
-/

namespace TypedSearch

open Outcome Query

/-! ## The steps of a search -/

namespace Query

def Clause.steps : Clause → List Step
  | .equality n v => [.field n, .equals v false]
  | .range n lower upper true => [.range n lower upper]
  | .range n lower upper false => [.range n lower upper, .exclusive]
  | .raw text => [.whereText text]

def SortKey.step (k : SortKey) : Step := .orderBy k.field (some k.direction.name)

def searchSteps (clauses : List Clause) (keys : List SortKey) (start rows : Option Value) :
    List Step :=
  clauses.flatMap Clause.steps ++ keys.map SortKey.step ++ [.paginate start rows]

/-- The steps of a clause add that clause to any builder. -/
theorem Clause.adds_steps (c : Clause) : Stage.Adds c.steps c := by
  cases c with
  | equality n v => exact Stage.adds_equals rfl
  | range n lower upper inclusive =>
    cases inclusive with
    | true => exact Stage.adds_range n lower upper
    | false => exact Stage.adds_range_exclusive n lower upper
  | raw text => exact Stage.adds_whereText text

namespace Stage

/-- The step of a sort key puts it behind the keys there are. -/
theorem take_sortKey (b : Builder) (k : SortKey) :
    (builder b).take k.step = pure (builder (b.orderBy k.field k.direction)) := by
  have hdirection : directionOf (some k.direction.name) = .ok k.direction := by
    simp [directionOf, Direction.ofName]
  change Resolving.ofExcept ((directionOf (some k.direction.name)).map _) = _
  rw [hdirection]
  rfl

/-- Keys to sort by are added in their order, and nothing else changes. -/
theorem takeAll_sortKeys (keys : List SortKey) (b : Builder) : ∃ ranged,
    (builder b).takeAll (keys.map SortKey.step) =
      pure (builder ⟨{ b.request with sort := ⟨b.request.sort.keys ++ keys⟩ }, ranged⟩) := by
  induction keys generalizing b with
  | nil => exact ⟨b.isRanged, by simp⟩
  | cons k keys ih =>
    obtain ⟨ranged, h⟩ := ih (b.orderBy k.field k.direction)
    refine ⟨ranged, ?_⟩
    rw [List.map_cons, takeAll_cons, take_sortKey, pure_bind, h]
    simp [Builder.orderBy, Sorting.andThen]

/-- The steps of a search build its request. -/
theorem takeAll_searchSteps (clauses : List Clause) (keys : List SortKey)
    (start rows : Option Value) :
    (builder .start).takeAll (searchSteps clauses keys start rows) =
      Resolving.ofExcept ((Request.make ⟨clauses⟩ ⟨keys⟩ start rows).map fun r ↦
        builder ⟨r, false⟩) := by
  obtain ⟨ranged, hkeys⟩ := takeAll_sortKeys keys (clauses.foldl Builder.addClause .start)
  rw [searchSteps, takeAll_append, takeAll_append, takeAll_flatMap fun c _ ↦ c.adds_steps,
    List.map_id', pure_bind, hkeys, pure_bind, takeAll_singleton, Builder.request_addClauses]
  change Resolving.ofExcept (((Request.make ⟨clauses⟩ ⟨keys⟩ start rows).map _).map _) = _
  cases Request.make ⟨clauses⟩ ⟨keys⟩ start rows <;> rfl

end Stage

def Step.isEnd : Step → Bool
  | .run | .toQuery => true
  | _ => false

theorem isEnd_of_mem_searchSteps {clauses : List Clause} {keys : List SortKey}
    {start rows : Option Value} {step : Step} (h : step ∈ searchSteps clauses keys start rows) :
    step.isEnd = false := by
  simp only [searchSteps, List.mem_append, List.mem_flatMap, List.mem_map, List.mem_singleton] at h
  rcases h with (⟨c, -, h⟩ | ⟨k, -, rfl⟩) | rfl
  · cases c with
    | equality n v => rcases List.mem_pair.1 h with rfl | rfl <;> rfl
    | range n lower upper inclusive =>
      cases inclusive with
      | true => cases List.mem_singleton.1 h; rfl
      | false => rcases List.mem_pair.1 h with rfl | rfl <;> rfl
    | raw text => cases List.mem_singleton.1 h; rfl
  · rfl
  · rfl

end Query

/-! ## The exchange of a search -/

namespace Client

variable {c : Client} {s : Schema} {stage : Stage} {step : Step} {steps rest : List Step}

/-- A query goes on after any step that does not end it. -/
theorem continueQuery_cons (h : step.isEnd = false) :
    c.continueQuery s stage (step :: rest) = stage.take step >>= fun stage ↦
      c.continueQuery s stage rest := by
  cases stage <;> cases step <;> first | rfl | cases h

/-- A query goes on from where its first steps lead. -/
theorem continueQuery_append (h : ∀ step ∈ steps, step.isEnd = false) :
    c.continueQuery s stage (steps ++ rest) =
    stage.takeAll steps >>= fun stage ↦ c.continueQuery s stage rest := by
  induction steps generalizing stage with
  | nil => exact (pure_bind _ _).symm
  | cons step steps ih =>
    rw [List.cons_append, continueQuery_cons (h step List.mem_cons_self), Stage.takeAll_cons,
      bind_assoc]
    exact bind_congr fun stage ↦ ih fun step hs ↦ h step (List.mem_cons_of_mem _ hs)

theorem continueQuery_run (c : Client) (s : Schema) (b : Builder) :
    c.continueQuery s (.builder b) [.run] = c.select s b.request := bind_pure _

/-- A search that is built step by step asks for what its request describes. -/
theorem continueQuery_searchSteps (c : Client) (s : Schema) (clauses : List Clause)
    (keys : List SortKey) (start rows : Option Value) :
    c.continueQuery s (.builder .start) (searchSteps clauses keys start rows ++ [.run]) =
      Resolving.ofExcept (Request.make ⟨clauses⟩ ⟨keys⟩ start rows) >>= c.select s := by
  rw [continueQuery_append fun _ ↦ isEnd_of_mem_searchSteps, Stage.takeAll_searchSteps]
  cases Request.make ⟨clauses⟩ ⟨keys⟩ start rows with
  | error e => rfl
  | ok r => exact c.continueQuery_run s ⟨r, false⟩

variable {d : Candidate} {l l' : Ledger}

/-- A request is checked before the schema is looked up. -/
theorem prepare_search (c : Client) (d : Candidate) (query : QueryInput) (sort : SortInput)
    (start rows : Option Value) : c.prepare (.search d query sort start rows) =
      Resolving.ofExcept (Request.make query.toExpression sort.toSorting start rows) >>= fun r ↦
        Resolving.resolve d >>= fun s ↦ Plan.exchange <$> c.select s r := rfl

/-- A query that is built goes on once the schema is looked up. -/
theorem prepare_query (c : Client) (d : Candidate) (steps : List Step) :
    c.prepare (.query d steps) =
    Resolving.resolve d >>= fun s ↦ Plan.exchange <$> c.continueQuery s (.builder .start) steps :=
  rfl

theorem run_select_of_ok {r : Request} {params : List (String × String)} (h : r.params = .ok params)
    (c : Client) (s : Schema) (l : Ledger) : (c.select s r).run.run l =
      (.ok ⟨.get selectPath params, c.readPage s⟩,
        ⟨l.registry, l.notes ++ [selectNote params]⟩) := by
  unfold select
  rw [h]
  rfl

theorem run_select_of_error {r : Request} {e : Fault} (h : r.params = .error e) (c : Client)
    (s : Schema) (l : Ledger) : (c.select s r).run.run l = (.error e, l) := by
  unfold select
  rw [h]
  rfl

end Client

/-- The ways to hand in an order: keys in a row or as a sorting, a single key by itself, and nothing
for no key. -/
inductive SortInput.Means : SortInput → List SortKey → Prop
  | none : Means .none []
  | key (k : SortKey) : Means (.key k) [k]
  | keys (ks : List SortKey) : Means (.keys ks) ks
  | sorting (ks : List SortKey) : Means (.sorting ⟨ks⟩) ks

/-- A sort that means some keys asks for exactly those. -/
theorem SortInput.Means.toSorting_eq {sort : SortInput} {ks : List SortKey} (h : sort.Means ks) :
    sort.toSorting = ⟨ks⟩ := by
  cases h <;> rfl

/-! ## Main statement -/

namespace Session

variable {σ : Type} {s : Session σ} {client : Client} {connection : Connection σ} {o o' : Operation}
  {e : Fault} {l : Ledger}

/-- Operations with equal preparations are performed alike. -/
theorem perform_congr
    (h : (client.prepare o).run.run ⟨s.registry, []⟩ = (client.prepare o').run.run ⟨s.registry,
      []⟩) :
    s.perform client connection o = s.perform client connection o' := by
  unfold perform
  rw [h]

/-- An operation that cannot be prepared sends nothing. -/
theorem perform_of_error (h : (client.prepare o).run.run ⟨s.registry, []⟩ = (.error e, l)) :
    s.perform client connection o = (⟨l.notes, .error e⟩, ⟨l.registry, s.link⟩) := by
  unfold perform
  rw [h]

theorem link_perform_of_exchange {x : Exchange}
    (h : (client.prepare o).run.run ⟨s.registry, []⟩ = (.ok (.exchange x), l)) :
    (s.perform client connection o).2.link = (connection.send x.call s.link).2 := by
  unfold perform
  rw [h]
  rfl

variable {d : Candidate} {schema : Schema} {registry : Registry} {notes : List Journal.Note}
  {query : QueryInput} {sort : SortInput} {keys : List SortKey} {clauses : List Clause}
  {start rows : Option Value} {r : Request} {steps : List Step}

theorem run_resolve_of_registers (hd : s.registry.resolve d = .ok (schema, registry, notes)) :
    (Resolving.resolve d).run.run ⟨s.registry, []⟩ = (.ok schema, ⟨registry, notes⟩) := by
  rw [Resolving.run_resolve, hd]
  rfl

/-- A request that is made is worked out after the schema is looked up. -/
theorem run_prepare_search (hd : s.registry.resolve d = .ok (schema, registry, notes))
    (hr : Request.make query.toExpression sort.toSorting start rows = .ok r) (client : Client) :
    (client.prepare (.search d query sort start rows)).run.run ⟨s.registry, []⟩ =
      (Plan.exchange <$> client.select schema r).run.run ⟨registry, notes⟩ := by
  rw [Client.prepare_search, hr]
  exact Resolving.run_bind_of_ok (run_resolve_of_registers hd)

/-- A query is prepared by its steps, once the schema of its type is found. -/
theorem run_prepare_query (hd : s.registry.resolve d = .ok (schema, registry, notes)) :
    (client.prepare (.query d steps)).run.run ⟨s.registry, []⟩ =
      (Plan.exchange <$> client.continueQuery schema (.builder .start) steps).run.run ⟨registry,
        notes⟩ := by
  rw [Client.prepare_query, Resolving.run_bind_of_ok (run_resolve_of_registers hd)]

/-- A request that is made is sent in the same way, however it was put together. -/
theorem perform_search_eq_query (hd : s.registry.resolve d = .ok (schema, registry, notes))
    (hr : Request.make query.toExpression sort.toSorting start rows = .ok r)
    (hsteps : client.continueQuery schema (.builder .start) steps = client.select schema r) :
    s.perform client connection (.search d query sort start rows) =
      s.perform client connection (.query d steps) := by
  apply perform_congr
  rw [run_prepare_search hd hr client, run_prepare_query hd, hsteps]

/-- The parameters of a request are sent in a single question. -/
theorem link_perform_search {params : List (String × String)}
    (hd : s.registry.resolve d = .ok (schema, registry, notes))
    (hr : Request.make query.toExpression sort.toSorting start rows = .ok r)
    (hp : r.params = .ok params) :
    (s.perform client connection (.search d query sort start rows)).2.link =
      (connection.send (.get Client.selectPath params) s.link).2 := by
  have hrun := run_prepare_search hd hr client
  rw [map_eq_pure_bind, Resolving.run_bind_of_ok (Client.run_select_of_ok hp client schema _)]
    at hrun
  exact link_perform_of_exchange hrun

/-- Without parameters nothing is sent. -/
theorem perform_search_of_params_error (hd : s.registry.resolve d = .ok (schema, registry, notes))
    (hr : Request.make query.toExpression sort.toSorting start rows = .ok r)
    (hp : r.params = .error e) :
    s.perform client connection (.search d query sort start rows) =
      (⟨notes, .error e⟩, ⟨registry, s.link⟩) := by
  have hrun := run_prepare_search hd hr client
  rw [map_eq_pure_bind, Resolving.run_bind_of_error (Client.run_select_of_error hp client schema _)]
    at hrun
  exact perform_of_error hrun

/-- A request that is refused leaves the session as it is. -/
theorem perform_search_of_refused
    (hr : Request.make query.toExpression sort.toSorting start rows = .error e) :
    s.perform client connection (.search d query sort start rows) = (⟨[], .error e⟩, s) := by
  refine perform_of_error (l := ⟨s.registry, []⟩) ?_
  rw [Client.prepare_search, hr]
  exact Resolving.run_bind_of_error rfl

/-- A query whose page is refused has looked the schema up, and sends nothing. -/
theorem perform_searchSteps_of_refused (hd : s.registry.resolve d = .ok (schema, registry, notes))
    (hr : Request.make ⟨clauses⟩ ⟨keys⟩ start rows = .error e) :
    s.perform client connection (.query d (searchSteps clauses keys start rows ++ [.run])) =
      (⟨notes, .error e⟩, ⟨registry, s.link⟩) := by
  refine perform_of_error (l := ⟨registry, notes⟩) ?_
  rw [run_prepare_query hd, Client.continueQuery_searchSteps, hr]
  rfl

/-- For a document type that registers, a search and the query that is built for it make the same
calls and give the same result, whatever the server answers. With a page that is not negative there
is no difference at all: both send the parameters of the request in a single question, or fail
without one. A page with a negative bound is refused before anything is sent. The fault is one of
the query builder, unless the bound has too many digits to be written into the message. It makes no
difference how the order is handed in. Searching for a text is running the query that consists of
it. -/
theorem search_eq_query (hd : s.registry.resolve d = .ok (schema, registry, notes))
    (hsort : sort.Means keys) (client : Client) (connection : Connection σ) (clauses : List Clause)
    (start rows : Option Value) :
    let searched := s.perform client connection (.search d (.expression ⟨clauses⟩) sort start rows)
    let built :=
      s.perform client connection (.query d (searchSteps clauses keys start rows ++ [.run]))
    searched.1.result = built.1.result ∧ searched.2.link = built.2.link ∧
      ((∀ v ∈ start, v.isNegative = .ok false) → (∀ v ∈ rows, v.isNegative = .ok false) →
        searched = built ∧
          match Request.params ⟨⟨clauses⟩, ⟨keys⟩, start, rows⟩ with
          | .ok params =>
            searched.2.link = (connection.send (.get Client.selectPath params) s.link).2
          | .error e => searched.1.result = .error e ∧ searched.2.link = s.link) ∧
      (∀ w n, w.integer? = some n → n < 0 →
        start = some w ∨ (∀ v ∈ start, v.isNegative = .ok false) ∧ rows = some w →
        ∃ e, searched.1.result = .error e ∧ searched.2.link = s.link ∧
          e.kind = if w.fits then "QueryBuilderError" else "ValueError") ∧
      ∀ text, s.perform client connection (.search d (.text text) .none none none) =
        s.perform client connection (.query d [.whereText text, .run]) := by
  intro searched built
  have htext : ∀ text, s.perform client connection (.search d (.text text) .none none none) =
      s.perform client connection (.query d [.whereText text, .run]) := by
    intro text
    refine perform_search_eq_query (r := ⟨.raw text, .empty, none, none⟩) hd rfl ?_
    rw [Client.continueQuery_cons rfl]
    exact client.continueQuery_run schema (Builder.start.whereText text)
  cases hmake : Request.make ⟨clauses⟩ ⟨keys⟩ start rows with
  | error e =>
    have hsearched : searched = (⟨[], .error e⟩, s) :=
      perform_search_of_refused (hsort.toSorting_eq ▸ hmake)
    have hbuilt : built = (⟨notes, .error e⟩, ⟨registry, s.link⟩) := perform_searchSteps_of_refused
      hd hmake
    rw [hsearched, hbuilt]
    refine ⟨rfl, rfl, fun hs hrows ↦ ?_, fun w n hw hn hfirst ↦ ?_, htext⟩
    · cases (Request.make_eq_ok_iff.2 ⟨hs, hrows, rfl⟩).symm.trans hmake
    · obtain ⟨e', he', hkind⟩ := Request.exists_make_of_negative hw hn hfirst
      obtain rfl := Except.error.inj (hmake.symm.trans he')
      exact ⟨e, rfl, rfl, hkind⟩
  | ok r =>
    have hr : Request.make (QueryInput.expression ⟨clauses⟩).toExpression sort.toSorting start
      rows = .ok r :=
      hsort.toSorting_eq ▸ hmake
    have hequal : searched = built := by
      refine perform_search_eq_query hd hr ?_
      rw [Client.continueQuery_searchSteps, hmake]
      rfl
    refine ⟨by rw [hequal], by rw [hequal], fun _ _ ↦ ⟨hequal, ?_⟩, fun w n hw hn hfirst ↦ ?_,
      htext⟩
    · obtain ⟨-, -, rfl⟩ := Request.make_eq_ok_iff.1 hmake
      cases hp : Request.params ⟨⟨clauses⟩, ⟨keys⟩, start, rows⟩ with
      | ok params => exact link_perform_search hd hr hp
      | error e =>
        have hsearched : searched = (⟨notes, .error e⟩, ⟨registry, s.link⟩) :=
          perform_search_of_params_error hd hr hp
        rw [hsearched]
        exact ⟨rfl, rfl⟩
    · obtain ⟨e, he, -⟩ := Request.exists_make_of_negative hw hn hfirst
      cases he.symm.trans hmake

/-- The books of the years between two years, the newest ones first. -/
def yearClauses : List Clause := [.range "year" (.int 1937) (.int 1955) false]

theorem search_eq_query_yearClauses :
    let s : Session (Script Call (Except Fault String)) := .start (.ofList [.ok "<response/>"])
    let search (start : Option Value) := s.perform ⟨true, false⟩ Script.connection
      (.search (.type bookType) (.expression ⟨yearClauses⟩) (.key ⟨"year", .desc⟩) start none)
    (∃ registry notes, s.registry.resolve (.type bookType) = .ok (bookSchema, registry, notes)) ∧
      search (some (.int 10)) = s.perform ⟨true, false⟩ Script.connection
        (.query (.type bookType) (searchSteps yearClauses [⟨"year", .desc⟩] (some (.int 10)) none ++
          [.run])) ∧
      (search (some (.int 10))).2.link.asked =
        [.get "/select" [("q", "year:\x7b1937 TO 1955\x7d"), ("sort", "year desc"),
          ("start", "10")]] ∧
      ∃ e, (search (some (.int (-1)))).1.result = .error e ∧ e.kind = "QueryBuilderError" ∧
        (search (some (.int (-1)))).2.link.asked = [] := by
  intro s search
  have hd : s.registry.resolve (.type bookType) = .ok (bookSchema, .insert .empty bookSchema, _) :=
    Registry.resolve_type_eq_ok_iff.2 (.inr ⟨rfl, build_bookType, rfl, rfl⟩)
  obtain ⟨-, -, hpage, -, -⟩ := search_eq_query hd (.key ⟨"year", .desc⟩) ⟨true, false⟩
    Script.connection yearClauses (some (.int 10)) none
  obtain ⟨-, -, -, hnegative, -⟩ := search_eq_query hd (.key ⟨"year", .desc⟩) ⟨true, false⟩
    Script.connection yearClauses (some (.int (-1))) none
  have hparams : Request.params ⟨⟨yearClauses⟩, ⟨[⟨"year", .desc⟩]⟩, some (.int 10), none⟩ =
      .ok [("q", "year:\x7b1937 TO 1955\x7d"), ("sort", "year desc"), ("start", "10")] := by
    decide +kernel
  obtain ⟨hequal, hlink⟩ := hpage (fun v hv ↦ by cases hv; rfl) fun v hv ↦ by cases hv
  rw [hparams] at hlink
  obtain ⟨e, he, hasked, hkind⟩ := hnegative (.int (-1)) (-1) rfl (by decide) (.inl rfl)
  have hfits : (Value.int (-1)).fits = true := by decide +kernel
  exact ⟨⟨_, _, hd⟩, hequal, congrArg Script.asked hlink, e, he, hkind.trans (if_pos hfits),
    congrArg Script.asked hasked⟩

/-- A negative number with 5001 digits. -/
def hugeDebt : Int := -(tenTo 5000 : Nat)

/-- A negative bound that is too long to be written is refused in both ways, but not by the query
builder. -/
theorem search_from_hugeDebt :
    let s : Session (Script Call (Except Fault String)) := .start (.ofList [.ok "<response/>"])
    let search := s.perform ⟨true, false⟩ Script.connection
      (.search (.type bookType) (.expression ⟨yearClauses⟩) .none (some (.int hugeDebt)) none)
    let query := s.perform ⟨true, false⟩ Script.connection
      (.query (.type bookType) (searchSteps yearClauses [] (some (.int hugeDebt)) none ++ [.run]))
    search.1.result = .error .tooManyDigits ∧ search.2.link.asked = [] ∧
      query.1.result = .error .tooManyDigits ∧ query.2.link.asked = [] ∧
      Fault.tooManyDigits.kind = "ValueError" := by
  intro s search query
  have hd : s.registry.resolve (.type bookType) = .ok (bookSchema, .insert .empty bookSchema, _) :=
    Registry.resolve_type_eq_ok_iff.2 (.inr ⟨rfl, build_bookType, rfl, rfl⟩)
  have hfits : ¬(Value.int hugeDebt).fits = true := by decide +kernel
  have hmake : Request.make ⟨yearClauses⟩ ⟨[]⟩ (some (.int hugeDebt)) none =
      .error .tooManyDigits := by
    rw [Request.make, Request.checkBound_of_negative (n := hugeDebt) rfl (by decide +kernel),
      if_neg hfits]
    rfl
  have hsearch : search = (⟨[], .error .tooManyDigits⟩, s) := perform_search_of_refused hmake
  have hquery : query = (⟨_, .error .tooManyDigits⟩, ⟨_, s.link⟩) := perform_searchSteps_of_refused
    hd hmake
  rw [hsearch, hquery]
  exact ⟨rfl, rfl, rfl, rfl, rfl⟩

end Session

end TypedSearch
