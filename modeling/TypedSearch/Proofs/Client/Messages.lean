import Mathlib.Data.List.TakeWhile
import TypedSearch.Http
import TypedSearch.Proofs.Client.Histories

/-!
# Messages of a client

What an operation sends is fixed before anything is sent: `Client.Sends` says which operations get
that far, with which call, and how the reply is read. Each of these sends the one message of its
call, and the outcome of the message decides alone what the operation gives; all others send nothing
(`Session.sends_one_message`). `Operation.Doomed` lists ways in which an operation fails before.
-/

namespace TypedSearch

open Outcome Query

/-! ## What is sent -/

theorem Candidate.build_eq_ok_iff {d : Candidate} {s : Schema} :
    d.build = .ok s ↔ ∃ t, d = .type t ∧ Schema.build t = .ok s := by
  cases d with
  | type t => exact ⟨fun h ↦ ⟨t, rfl, h⟩, by rintro ⟨_, ⟨⟩, h⟩; exact h⟩
  | value v =>
    refine ⟨fun h ↦ ?_, by rintro ⟨_, ⟨⟩, -⟩⟩
    obtain ⟨_, -, h⟩ := bind_eq_ok.1 h
    cases h

namespace Client

def page (c : Client) (s : Schema) (reply : String) : Except Fault Answer :=
  ((c.reader s).read (.text reply)).result.map .page

/-- The operations for which a call can be made, with the call and what is made of the reply to
it. -/
inductive Sends (c : Client) : Operation → Call → (String → Except Fault Answer) → Prop
  | search {t : DocumentType} {s : Schema} {query : QueryInput} {sort : SortInput}
      {start rows : Option Value} {request : Request} {params : List (String × String)}
      (built : Schema.build t = .ok s)
      (made : Request.make query.toExpression sort.toSorting start rows = .ok request)
      (rendered : request.params = .ok params) :
      Sends c (.search (.type t) query sort start rows) (.get "/select" params) (c.page s)
  | query {t : DocumentType} {s : Schema} {steps : List Step} {b : Builder}
      {params : List (String × String)} (built : Schema.build t = .ok s)
      (unended : ∀ step ∈ steps, step.isEnd = false)
      (led : (Stage.builder .start).advanceAll Schema.build steps = .ok (.builder b))
      (rendered : b.request.params = .ok params) :
      Sends c (.query (.type t) (steps ++ [.run])) (.get "/select" params) (c.page s)
  /-- A page offers no further steps. -/
  | overrun {t : DocumentType} {s : Schema} {steps more : List Step} {b : Builder}
      {params : List (String × String)} (built : Schema.build t = .ok s)
      (unended : ∀ step ∈ steps, step.isEnd = false)
      (led : (Stage.builder .start).advanceAll Schema.build steps = .ok (.builder b))
      (rendered : b.request.params = .ok params) (further : more ≠ []) :
      Sends c (.query (.type t) (steps ++ .run :: more)) (.get "/select" params)
        fun reply ↦ c.page s reply >>= fun _ ↦ .error unfinished
  | add {documents : List Document} {rows : List (List (String × String))}
      (serialized : List.Forall₂ (fun d row ↦ ∃ s, Schema.build d.type = .ok s ∧
        Update.fieldsOf s d = .ok row) documents rows) :
      Sends c (.add documents) (.post "/update" (Update.body (Update.addElement rows))) fun reply ↦
        .ok (.reply reply)
  | deleteByIds {ids : List Value} {texts : List String}
      (serialized : List.Forall₂ (fun v text ↦ v.literal = .ok text) ids texts) :
      Sends c (.deleteByIds ids) (.post "/update" (Update.body (Update.deleteElement texts)))
        fun reply ↦ .ok (.reply reply)
  | deleteByQuery {query : QueryInput} {text : String} (rendered : query.render = .ok text) :
      Sends c (.deleteByQuery query) (.post "/update" (Update.body (Update.deleteByQueryText text)))
        fun reply ↦ .ok (.reply reply)
  | flush (f : Update.Flush) (w : Update.Waiting) :
      Sends c (.flush f w) (.post "/update" (Update.body (Update.flushElement f w))) fun reply ↦
        .ok (.reply reply)

variable {c : Client} {s : Schema} {stage : Stage} {steps more : List Step} {e : Exchange}
  {o : Operation} {call : Call} {read : String → Except Fault Answer} {r : Request}
  {params : List (String × String)}

/-- A question asks with the parameters of its request. -/
theorem question_of_params (h : r.params = .ok params) (c : Client) (s : Schema) :
    c.question s r = .ok ⟨.get selectPath params, c.readPage s⟩ := bind_eq_ok.2 ⟨params, h, rfl⟩

/-- A question can be asked iff its parameters can be written. -/
theorem question_eq_ok_iff : c.question s r = .ok e ↔
    ∃ params, r.params = .ok params ∧ e = ⟨.get selectPath params, c.readPage s⟩ := by
  unfold question
  rw [bind_eq_ok]
  exact exists_congr fun params ↦ and_congr_right fun _ ↦ ⟨fun h ↦ (Except.ok.inj h).symm,
    fun h ↦ h ▸ rfl⟩

/-- A query ends in an exchange only where a builder is run. -/
theorem ending_eq_ok_iff : c.ending s stage steps = .ok e ↔ ∃ b rest x, stage = .builder b ∧
    steps = .run :: rest ∧
    c.question s b.request = .ok x ∧ e = if rest.isEmpty then x else x.failAfter unfinished := by
  constructor
  · intro h
    unfold ending at h
    split at h
    · cases h
    · rename_i b rest
      obtain ⟨x, hx, rfl⟩ := map_eq_ok.1 h
      exact ⟨b, rest, x, rfl, rfl, hx, rfl⟩
    · obtain ⟨_, -, h⟩ := bind_eq_ok.1 h
      cases h
    · cases h
  · rintro ⟨b, rest, x, rfl, rfl, hx, rfl⟩
    exact map_eq_ok.2 ⟨x, hx, rfl⟩

/-- A query leads to an exchange iff its first steps lead to a builder that is run. -/
theorem follow_eq_ok_iff :
    c.follow s stage steps = .ok e ↔ ∃ before b rest x, steps = before ++ .run :: rest ∧
    (∀ step ∈ before, step.isEnd = false) ∧ stage.advanceAll Schema.build before =
      .ok (.builder b) ∧
    c.question s b.request = .ok x ∧ e = if rest.isEmpty then x else x.failAfter unfinished := by
  unfold follow
  rw [bind_eq_ok]
  constructor
  · rintro ⟨_, hled, h⟩
    obtain ⟨b, rest, x, rfl, hrest, hx, rfl⟩ := ending_eq_ok_iff.1 h
    refine ⟨_, b, rest, x, ?_, fun step hstep ↦ ?_, hled, hx, rfl⟩
    · rw [← hrest, List.takeWhile_append_dropWhile]
    · simpa using List.mem_takeWhile_imp hstep
  · rintro ⟨before, b, rest, x, rfl, hbefore, hled, hx, rfl⟩
    have hopen : ∀ step ∈ before, (!step.isEnd) = true := by simpa using hbefore
    rw [List.takeWhile_append_of_pos hopen, List.dropWhile_append_of_pos hopen]
    refine ⟨_, by simpa [Step.isEnd] using hled,
      ending_eq_ok_iff.2 ⟨b, rest, x, rfl, by simp [Step.isEnd], hx, rfl⟩⟩

/-- What a reply comes to does not depend on what is noted of it. -/
theorem result_readPage (c : Client) (s : Schema) (reply : String) :
    (c.readPage s reply).result = c.page s reply := by
  unfold readPage page
  rw [Traced.result_bind]
  cases ((c.reader s).read (.text reply)).result <;> rfl

theorem result_failAfter_readPage (c : Client) (s : Schema) (reply : String) :
    ((Exchange.failAfter ⟨call, c.readPage s⟩ unfinished).read reply).result =
      c.page s reply >>= fun _ ↦ .error unfinished := by
  rw [← result_readPage]
  exact Traced.result_bind ..

/-- A plan to make a call is one of those listed. -/
theorem sends_of_plan (h : c.plan o = .ok (.exchange e)) :
    ∃ read, c.Sends o e.call read ∧ ∀ reply, (e.read reply).result = read reply := by
  cases o with
  | register d =>
    obtain ⟨_, -, h⟩ := map_eq_ok.1 h
    cases h
  | search d query sort start rows =>
    obtain ⟨r, hmade, h⟩ := bind_eq_ok.1 h
    obtain ⟨s, hbuilt, h⟩ := bind_eq_ok.1 h
    obtain ⟨x, hx, h⟩ := map_eq_ok.1 h
    cases h
    obtain ⟨t, rfl, hbuilt⟩ := Candidate.build_eq_ok_iff.1 hbuilt
    obtain ⟨params, hparams, rfl⟩ := question_eq_ok_iff.1 hx
    exact ⟨_, .search hbuilt hmade hparams, result_readPage c s⟩
  | query d steps =>
    obtain ⟨s, hbuilt, h⟩ := bind_eq_ok.1 h
    obtain ⟨x, hx, h⟩ := map_eq_ok.1 h
    cases h
    obtain ⟨t, rfl, hbuilt⟩ := Candidate.build_eq_ok_iff.1 hbuilt
    obtain ⟨before, b, rest, x, rfl, hbefore, hled, hasked, rfl⟩ := follow_eq_ok_iff.1 hx
    obtain ⟨params, hparams, rfl⟩ := question_eq_ok_iff.1 hasked
    cases rest with
    | nil => exact ⟨_, .query hbuilt hbefore hled hparams, result_readPage c s⟩
    | cons step rest =>
      exact ⟨_, .overrun hbuilt hbefore hled hparams (List.cons_ne_nil step rest),
        result_failAfter_readPage c s⟩
  | add documents =>
    obtain ⟨rows, hrows, h⟩ := bind_eq_ok.1 h
    cases h
    refine ⟨_, .add ((mapM_eq_ok_iff.1 hrows).imp fun d row h ↦ ?_), fun _ ↦ rfl⟩
    obtain ⟨s, hbuilt, hrow⟩ := bind_eq_ok.1 h
    obtain ⟨_, ⟨⟩, hbuilt⟩ := Candidate.build_eq_ok_iff.1 hbuilt
    exact ⟨s, hbuilt, hrow⟩
  | deleteByIds ids =>
    obtain ⟨x, hx, h⟩ := bind_eq_ok.1 h
    cases h
    obtain ⟨texts, htexts, rfl⟩ := map_eq_ok.1 hx
    exact ⟨_, .deleteByIds (mapM_eq_ok_iff.1 htexts), fun _ ↦ rfl⟩
  | deleteByQuery query =>
    obtain ⟨text, htext, h⟩ := bind_eq_ok.1 h
    cases h
    exact ⟨_, .deleteByQuery htext, fun _ ↦ rfl⟩
  | flush f w =>
    cases h
    exact ⟨_, .flush f w, fun _ ↦ rfl⟩

/-- Only a registration is settled without a call. -/
theorem register_of_plan {a : Answer} (h : c.plan o = .ok (.settled a)) : ∃ d, o = .register d := by
  cases o with
  | register d => exact ⟨d, rfl⟩
  | search =>
    obtain ⟨_, -, h⟩ := bind_eq_ok.1 h
    obtain ⟨_, -, h⟩ := bind_eq_ok.1 h
    obtain ⟨_, -, h⟩ := map_eq_ok.1 h
    cases h
  | query =>
    obtain ⟨_, -, h⟩ := bind_eq_ok.1 h
    obtain ⟨_, -, h⟩ := map_eq_ok.1 h
    cases h
  | flush => cases h
  | add | deleteByIds | deleteByQuery =>
    obtain ⟨_, -, h⟩ := bind_eq_ok.1 h
    cases h

/-- Each of those listed is planned. -/
theorem plan_of_sends (h : c.Sends o call read) :
    ∃ e, c.plan o = .ok (.exchange e) ∧ e.call = call ∧ ∀ reply, (e.read reply).result =
      read reply := by
  cases h with
  | @search t s query sort start rows r params hbuilt hmade hparams =>
    have hasked := question_of_params hparams c s
    exact ⟨_, bind_eq_ok.2 ⟨_, hmade, bind_eq_ok.2 ⟨_, Candidate.build_eq_ok_iff.2 ⟨_, rfl, hbuilt⟩,
      map_eq_ok.2 ⟨_, hasked, rfl⟩⟩⟩, rfl, result_readPage c _⟩
  | @query t s steps b params hbuilt hbefore hled hparams =>
    have hfollowed := follow_eq_ok_iff.2
      ⟨_, _, [], _, rfl, hbefore, hled, question_of_params hparams c s, rfl⟩
    exact ⟨_, bind_eq_ok.2 ⟨_, Candidate.build_eq_ok_iff.2 ⟨_, rfl, hbuilt⟩,
      map_eq_ok.2 ⟨_, hfollowed, rfl⟩⟩, rfl, result_readPage c _⟩
  | @overrun t s steps more b params hbuilt hbefore hled hparams hmore =>
    have hfollowed := follow_eq_ok_iff.2
      ⟨_, _, more, _, rfl, hbefore, hled, question_of_params hparams c s, rfl⟩
    rw [List.isEmpty_eq_false_iff.2 hmore] at hfollowed
    exact ⟨_, bind_eq_ok.2 ⟨_, Candidate.build_eq_ok_iff.2 ⟨_, rfl, hbuilt⟩,
      map_eq_ok.2 ⟨_, hfollowed, rfl⟩⟩, rfl, result_failAfter_readPage c _⟩
  | add hserialized =>
    refine ⟨_, bind_eq_ok.2 ⟨_, mapM_eq_ok_iff.2 (hserialized.imp ?_), rfl⟩, rfl, fun _ ↦ rfl⟩
    rintro d row ⟨s, hbuilt, hrow⟩
    exact bind_eq_ok.2 ⟨s, Candidate.build_eq_ok_iff.2 ⟨_, rfl, hbuilt⟩, hrow⟩
  | deleteByIds hserialized =>
    have htexts := mapM_eq_ok_iff.2 hserialized
    exact ⟨_, bind_eq_ok.2 ⟨_, map_eq_ok.2 ⟨_, htexts, rfl⟩, rfl⟩, rfl, fun _ ↦ rfl⟩
  | deleteByQuery hrendered => exact ⟨_, bind_eq_ok.2 ⟨_, hrendered, rfl⟩, rfl, fun _ ↦ rfl⟩
  | flush f w => exact ⟨_, rfl, rfl, fun _ ↦ rfl⟩

end Client

/-! ## What is not sent -/

/-- Ways in which an operation fails before its call is complete. -/
inductive Operation.Doomed : Operation → Prop
  /-- A search for documents of a type that has no schema. -/
  | searchType {d : Candidate} (query : QueryInput) (sort : SortInput) (start rows : Option Value)
      (unusable : ∀ s, d.build ≠ .ok s) : Doomed (.search d query sort start rows)
  | queryType {d : Candidate} (steps : List Step) (unusable : ∀ s, d.build ≠ .ok s) :
      Doomed (.query d steps)
  /-- A search for a page that begins, or ends, below zero. -/
  | searchPage {start rows : Option Value} {v : Value} (d : Candidate) (query : QueryInput)
      (sort : SortInput) (bound : v ∈ start ∨ v ∈ rows)
      (negative : v.isNegative = .ok true) :
      Doomed (.search d query sort start rows)
  | queryPage {steps : List Step} {start rows : Option Value} {v : Value} (d : Candidate)
      (more : List Step) (unended : ∀ step ∈ steps, step.isEnd = false)
      (bound : v ∈ start ∨ v ∈ rows)
      (negative : v.isNegative = .ok true) : Doomed
      (.query d (steps ++ .paginate start rows :: more))
  /-- A document, wherever it stands, that has no schema or does not go by it. -/
  | document {documents : List Document} {d : Document} (added : d ∈ documents)
      (unserializable : ∀ row, Update.rowOf d ≠ .ok row) : Doomed (.add documents)

/-- What is doomed is not planned. -/
theorem Client.plan_of_doomed {o : Operation} (h : o.Doomed) (c : Client) (p : Plan) :
    c.plan o ≠ .ok p := by
  intro hp
  cases h with
  | searchType _ _ _ _ unusable =>
    obtain ⟨_, -, hp⟩ := bind_eq_ok.1 hp
    obtain ⟨s, hbuilt, -⟩ := bind_eq_ok.1 hp
    exact unusable s hbuilt
  | queryType _ unusable =>
    obtain ⟨s, hbuilt, -⟩ := bind_eq_ok.1 hp
    exact unusable s hbuilt
  | searchPage _ _ _ bound negative =>
    obtain ⟨r, hmade, -⟩ := bind_eq_ok.1 hp
    obtain ⟨hstart, hrows, -⟩ := Request.make_eq_ok_iff.1 hmade
    cases negative.symm.trans (bound.elim (hstart _) (hrows _))
  | @queryPage steps start rows v _ more unended bound negative =>
    obtain ⟨s, -, hp⟩ := bind_eq_ok.1 hp
    obtain ⟨x, hx, -⟩ := map_eq_ok.1 hp
    obtain ⟨_, hled, -⟩ := bind_eq_ok.1 hx
    have hopen : ∀ step ∈ steps, (!step.isEnd) = true := by simpa using unended
    rw [List.takeWhile_append_of_pos hopen, Stage.advanceAll, List.foldlM_append] at hled
    obtain ⟨stage, -, hled⟩ := bind_eq_ok.1 hled
    obtain ⟨_, hled, -⟩ := Stage.advanceAll_cons_eq_ok_iff.1 hled
    cases hled with
    | toggle htoggles => cases htoggles
    | paginate hb =>
      obtain ⟨hstart, hrows, -⟩ := Builder.paginate_eq_ok_iff.1 hb
      cases negative.symm.trans (bound.elim (hstart _) (hrows _))
  | document added unserializable =>
    obtain ⟨rows, hrows, -⟩ := bind_eq_ok.1 hp
    obtain ⟨row, hrow⟩ := exists_mapM_eq_ok_iff.1 ⟨rows, hrows⟩ _ added
    exact unserializable row hrow

/-! ## One message for an operation -/

/-- Is something raised for a message, while it is sent or when the status of its answer is
checked? -/
inductive Http.Outcome.Raises : Outcome → Failure → Prop
  | checked (text : String) (f : Failure) : Raises (.answer text (some f)) f
  | sent (f : Failure) : Raises (.failure f) f

/-- What an operation gives, by the outcome of the message for its call. -/
inductive Http.Outcome.Gives (call : String) (read : String → Except Fault Answer) :
    Outcome → Except Fault Answer → Prop
  | answer (text : String) : Gives call read (.answer text none) (read text)
  | http {outcome : Outcome} {reason : String} {status : Option Int}
      (raised : outcome.Raises (.http reason status)) :
      Gives call read outcome (.error (.connection (call ++ " failed: " ++ reason) status))
  | request {outcome : Outcome} {reason : String} (raised : outcome.Raises (.request reason)) :
      Gives call read outcome (.error (.connection (call ++ " failed: " ++ reason) none))
  | foreign {outcome : Outcome} {kind text : String}
      (raised : outcome.Raises (.foreign kind text)) :
      Gives call read outcome (.error (.foreign kind text))

namespace Http.Outcome

variable {outcome : Outcome} {f : Failure}

theorem settle_of_raises (h : outcome.Raises f) (call : String) :
    outcome.settle call = .error (f.fault call) := by
  cases h <;> rfl

theorem gives_of_raises (h : outcome.Raises f) (call : String)
    (read : String → Except Fault Answer) :
    outcome.Gives call read (.error (f.fault call)) := by
  cases f with
  | http => exact .http h
  | request => exact .request h
  | foreign => exact .foreign h

theorem gives_settle (outcome : Outcome) (call : String) (read : String → Except Fault Answer) :
    outcome.Gives call read (outcome.settle call >>= read) := by
  have hraised : ∀ f, outcome.Raises f →
      outcome.Gives call read (outcome.settle call >>= read) := by
    intro f h
    rw [settle_of_raises h]
    exact gives_of_raises h call read
  cases outcome with
  | answer text verdict =>
    cases verdict with
    | none => exact .answer text
    | some f => exact hraised f (.checked text f)
  | failure f => exact hraised f (.sent f)

end Http.Outcome

namespace Session

variable {σ : Type} {s : Session σ} {client : Client} {endpoint : Http.Endpoint}
  {session : Http.Message → σ → Http.Outcome × σ} {o : Operation} {call : Call}
  {read : String → Except Fault Answer}

/-- The messages that an operation sends by way of a session. -/
def messages (s : Session σ) (client : Client) (endpoint : Http.Endpoint)
    (session : Http.Message → σ → Http.Outcome × σ) (o : Operation) : List Http.Message :=
  ((⟨s.registry, s.link, []⟩ : Session (σ × List Http.Message)).perform client
    (endpoint.connection (recorded session)) o).2.link.2

/-- A record of the messages does not change what an operation gives. -/
theorem perform_recorded (s : Session σ) (client : Client) (endpoint : Http.Endpoint)
    (session : Http.Message → σ → Http.Outcome × σ) (o : Operation) :
    ((⟨s.registry, s.link, []⟩ : Session (σ × List Http.Message)).perform client
      (endpoint.connection (recorded session)) o).1 =
        (s.perform client (endpoint.connection session) o).1 := by
  unfold perform
  rcases (client.prepare o).run.run ⟨s.registry, []⟩ with ⟨f | plan, ledger⟩
  · rfl
  · cases plan <;> rfl

/-- An operation sends the message that its plan shows, and no other. -/
theorem messages_eq (h : s.registry.Sound) :
    s.messages client endpoint session o = ((client.call? o).map endpoint.message).toList := by
  have hlink := link_perform (s := (⟨s.registry, s.link, []⟩ : Session (σ × List Http.Message))) h
    client (endpoint.connection (recorded session)) o
  rw [messages, hlink]
  cases client.call? o <;> rfl

/-- An operation leaves the session where its messages lead. -/
theorem link_eq_foldl_messages (h : s.registry.Sound) :
    (s.perform client (endpoint.connection session) o).2.link =
      (s.messages client endpoint session o).foldl (fun link m ↦ (session m link).2) s.link := by
  rw [messages_eq h, link_perform h]
  cases client.call? o <;> rfl

/-- A call that can be made is sent, and what is made of its outcome is what the operation gives. -/
theorem result_of_sends (h : s.registry.Sound) (hs : client.Sends o call read) :
    s.messages client endpoint session o = [endpoint.message call] ∧
      (s.perform client (endpoint.connection session) o).1.result =
        (session (endpoint.message call) s.link).1.settle
          ((endpoint.message call).method ++ " " ++ (endpoint.message call).url) >>= read := by
  obtain ⟨e, hplan, rfl, hread⟩ := Client.plan_of_sends hs
  have hcall : client.call? o = some e.call := by
    rw [Client.call?, hplan]
    rfl
  rw [messages_eq h, hcall, result_perform h, hplan, ← funext hread]
  exact ⟨rfl, rfl⟩

/-- A call that can be made is sent, and the outcome decides what it gives. -/
theorem messages_of_sends (h : s.registry.Sound) (hs : client.Sends o call read) :
    let message := endpoint.message call
    s.messages client endpoint session o = [message] ∧
      (session message s.link).1.Gives (message.method ++ " " ++ message.url) read
        (s.perform client (endpoint.connection session) o).1.result := by
  intro message
  obtain ⟨hmessages, hresult⟩ : s.messages client endpoint session o = [message] ∧
      (s.perform client (endpoint.connection session) o).1.result = _ := result_of_sends h hs
  exact ⟨hmessages, hresult ▸ Http.Outcome.gives_settle ..⟩

/-- Where no call can be made, there is no message, and nothing but a registration succeeds. -/
theorem messages_of_not_sends (h : s.registry.Sound)
    (hs : ∀ call read, ¬ client.Sends o call read) :
    s.messages client endpoint session o = [] ∧
      ((∃ d, o = .register d) ∨ ∃ e, (s.perform client (endpoint.connection session) o).1.result =
        .error e) := by
  rw [messages_eq h, result_perform h, Client.call?]
  cases hplan : client.plan o with
  | error e => exact ⟨rfl, .inr ⟨e, rfl⟩⟩
  | ok plan =>
    cases plan with
    | exchange e =>
      obtain ⟨read, hsends, -⟩ := Client.sends_of_plan hplan
      exact absurd hsends (hs e.call read)
    | settled a => exact ⟨rfl, .inl (Client.register_of_plan hplan)⟩

/-- What a doomed operation gives is a fault, without any message. -/
theorem messages_of_doomed (h : s.registry.Sound) (hd : o.Doomed) :
    s.messages client endpoint session o = [] ∧
      ∃ e, (s.perform client (endpoint.connection session) o).1.result = .error e := by
  rw [messages_eq h, result_perform h, Client.call?]
  cases hplan : client.plan o with
  | error e => exact ⟨rfl, e, rfl⟩
  | ok plan => exact absurd hplan (Client.plan_of_doomed hd client plan)

end Session

end TypedSearch
