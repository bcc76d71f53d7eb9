import TypedSearch.CommandLine.Run
import TypedSearch.Proofs.Client.Silence
import TypedSearch.Proofs.Settings.Timeout
import TypedSearch.Proofs.Text.Words
import TypedSearch.Proofs.Update.Bodies

/-!
# How a command ends

A command makes one call at most. `Command.Ends` says in which ways it ends: a query stops before
there is anything to send (`QueryStops`), or the call of the command is made (`Command.Calls`), and
then the outcome of the message decides. Every command ends in one of these ways
(`Command.exists_ends`), and a run of it reports and sends accordingly (`Command.run_of_ends`).

Before the object at its end nothing is printed, unless a type of a member does so when it is called
to read a text (`Command.IsSilent`).
-/

namespace TypedSearch.CommandLine

open Outcome Query Settings Text

/-! ## Modules -/

/-- The parts of a name between its points, joined again. -/
theorem intercalate_pieces (name : String) :
    ".".intercalate ((pieces (· == '.') name.toList).map String.ofList) = name := by
  have hparts : (pieces (· == '.') name.toList) = name.toList.splitOn '.' := pieces_eq_splitOnP ..
  rw [← String.toList_inj, String.toList_intercalate, List.map_map, hparts]
  simp [Function.comp_def, List.intercalate_splitOn]

/-- A module that is at hand is loaded by its full name, however many packages are around it. -/
theorem Catalogue.moduleNamed_of_find? {c : Catalogue} {name : String} {m : Module}
    (h : c.modules.find? (·.name == name) = some m) (hn : name.toList.head? ≠ some '.') :
    c.moduleNamed name = .ok m := by
  rw [moduleNamed, if_neg (by simpa using hn)]
  generalize hparts : ((pieces (· == '.') name.toList).map String.ofList).reverse = parts
  have hname : ".".intercalate parts.reverse = name := by
    rw [← hparts, List.reverse_reverse, intercalate_pieces]
  cases parts with
  | nil =>
    rw [List.reverse_eq_nil_iff, List.map_eq_nil_iff] at hparts
    exact absurd hparts (pieces_ne_nil _ _)
  | cons part around => rw [moduleAt, hname, h]

/-! ## What is printed -/

/-- Is the output an object, printed on one line or on several, that begins with the status? -/
inductive Prints (status : String) : String → Prop
  | line (members : List (String × Json)) :
      Prints status ((Json.object (("status", .text status) :: members)).render ++ "\n")
  | block (members : List (String × Json)) :
      Prints status ((Json.object (("status", .text status) :: members)).renderBlock ++ "\n")

/-- The line of an error is one object whose status says so. -/
theorem prints_errorLine (message : String) : Prints "error" (errorLine message) := .line _

/-- The text of an answer is one object with a status of its own. -/
theorem prints_answerText {a : Answer} {text : String} (ha : ∀ s, a ≠ .schema s)
    (h : answerText a = .ok text) :
    Prints "ok" text := by
  cases a with
  | schema s => exact absurd rfl (ha s)
  | reply text =>
    cases h
    exact .line _
  | page r =>
    obtain ⟨documents, -, h⟩ := bind_eq_ok.1 h
    cases h
    exact .block _

theorem exists_line_object (k : String) (v : Json) (members : List (String × Json)) :
    ∃ rest, (Json.object ((k, v) :: members)).line =
      '{' :: (Json.textChars k ++ ':' :: ' ' :: (v.line ++ rest)) := by
  cases members with
  | nil => exact ⟨['}'], by simp [Json.line, Json.lineMembers]⟩
  | cons m ms => exact ⟨_, by simp [Json.line, Json.lineMembers]; rfl⟩

theorem exists_block_object (k : String) (v : Json) (members : List (String × Json)) : ∃ rest,
    (Json.object ((k, v) :: members)).block 0 =
      '{' :: (Json.newLine 1 ++ (Json.textChars k ++ ':' :: ' ' :: (v.block 1 ++ rest))) := by
  cases members with
  | nil => exact ⟨_, by simp [Json.block, Json.blockMembers]; rfl⟩
  | cons m ms => exact ⟨_, by simp [Json.block, Json.blockMembers]; rfl⟩

/-- How an output begins. -/
theorem Prints.exists_rest {status output : String} (h : Prints status output) :
    ∃ rest, output.toList =
        '{' :: (Json.textChars "status" ++ ':' :: ' ' :: (Json.textChars status ++ rest)) ∨
      output.toList =
        '{' :: (Json.newLine 1 ++
          (Json.textChars "status" ++ ':' :: ' ' :: (Json.textChars status ++ rest))) := by
  cases h with
  | line members =>
    obtain ⟨rest, hrest⟩ := exists_line_object "status" (.text status) members
    have htext : (Json.text status).line = Json.textChars status := by rw [Json.line]
    rw [htext] at hrest
    refine ⟨rest ++ ['\n'], Or.inl ?_⟩
    rw [Json.render, String.toList_append, String.toList_ofList, hrest]
    simp
  | block members =>
    obtain ⟨rest, hrest⟩ := exists_block_object "status" (.text status) members
    have htext : (Json.text status).block 1 = Json.textChars status := by rw [Json.block, Json.line]
    rw [htext] at hrest
    refine ⟨rest ++ ['\n'], Or.inr ?_⟩
    rw [Json.renderBlock, String.toList_append, String.toList_ofList, hrest]
    simp

/-- No output has two statuses. -/
theorem not_prints_ok_of_error {output : String} (h : Prints "error" output) :
    ¬ Prints "ok" output := by
  intro h'
  have hstatus : Json.textChars "status" = "\"status\"".toList := by decide
  have hok : Json.textChars "ok" = "\"ok\"".toList := by decide
  have herror : Json.textChars "error" = "\"error\"".toList := by decide
  have hline : Json.newLine 1 = ['\n', ' ', ' '] := by decide
  obtain ⟨rest, hrest | hrest⟩ := h.exists_rest
  all_goals
    obtain ⟨rest', hrest' | hrest'⟩ := h'.exists_rest
    all_goals
      rw [hrest'] at hrest
      simp [hstatus, hok, herror, hline] at hrest

/-! ## Ways in which a command ends -/

/-- The order that a command line asks for; an empty text asks for none. -/
def sortInput : Option String → Except Fault SortInput
  | none => .ok .none
  | some s => if s.isEmpty then .ok .none else (Sorting.parse s).map .sorting

/-- A query fails before there is a message to send. -/
inductive QueryStops (catalogue : Catalogue) (type text : String) (sort : Option String)
    (start rows : Option Int) :
    Fault → Prop
  /-- The document type cannot be loaded. -/
  | unloaded {f : Fault} (failed : catalogue.documentType type = .error f) :
      QueryStops catalogue type text sort start rows f
  /-- The order is none. -/
  | unsorted {t : DocumentType} {f : Fault} (loaded : catalogue.documentType type = .ok t)
      (failed : sortInput sort = .error f) : QueryStops catalogue type text sort start rows f
  /-- The page is refused. -/
  | refused {t : DocumentType} {order : SortInput} {f : Fault}
      (loaded : catalogue.documentType type = .ok t)
      (sorted : sortInput sort = .ok order)
      (failed : Request.make (.raw text) order.toSorting (start.map .int) (rows.map .int) =
        .error f) :
      QueryStops catalogue type text sort start rows f
  /-- The document type has no schema. -/
  | rejected {t : DocumentType} {order : SortInput} {r : Request} {f : Fault}
      (loaded : catalogue.documentType type = .ok t) (sorted : sortInput sort = .ok order)
      (made : Request.make (.raw text) order.toSorting (start.map .int) (rows.map .int) = .ok r)
      (failed : Schema.build t = .error f) : QueryStops catalogue type text sort start rows f
  /-- A parameter cannot be written. -/
  | unwritten {t : DocumentType} {order : SortInput} {r : Request} {s : Schema} {f : Fault}
      (loaded : catalogue.documentType type = .ok t) (sorted : sortInput sort = .ok order)
      (made : Request.make (.raw text) order.toSorting (start.map .int) (rows.map .int) = .ok r)
      (built : Schema.build t = .ok s) (failed : r.params = .error f) :
      QueryStops catalogue type text sort start rows f

namespace Command

/-- The call of a command is complete, and this is what is printed for the reply to it. -/
inductive Calls (catalogue : Catalogue) : Command → Call → (String → Except Fault String) → Prop
  | query {type text : String} {sort : Option String} {start rows : Option Int} {t : DocumentType}
      {order : SortInput} {r : Request} {s : Schema} {params : List (String × String)}
      (strict : Bool) (loaded : catalogue.documentType type = .ok t)
      (sorted : sortInput sort = .ok order)
      (made : Request.make (.raw text) order.toSorting (start.map .int) (rows.map .int) = .ok r)
      (built : Schema.build t = .ok s) (written : r.params = .ok params) :
      Calls catalogue (.query type text sort start rows strict) (.get "/select" params) fun reply ↦
        Client.page ⟨strict, false⟩ s reply >>= answerText
  | deleteByIds (ids : List String) :
      Calls catalogue (.deleteByIds ids) (.post "/update" (Update.body (Update.deleteElement ids)))
        fun reply ↦
        answerText (.reply reply)
  | deleteByQuery (text : String) :
      Calls catalogue (.deleteByQuery text)
        (.post "/update" (Update.body (Update.deleteByQueryText text))) fun reply ↦
        answerText (.reply reply)
  | flush (f : Update.Flush) (w : Update.Waiting) :
      Calls catalogue (.flush f w) (.post "/update" (Update.body (Update.flushElement f w)))
        fun reply ↦
        answerText (.reply reply)

/-- How a command ends where messages have the given outcomes: the messages that are sent, and what
is printed or the fault that is raised. -/
inductive Ends (catalogue : Catalogue) (endpoint : Http.Endpoint)
    (outcome : Http.Message → Http.Outcome) :
    Command → List Http.Message → Except Fault String → Prop
  | stopped {type text : String} {sort : Option String} {start rows : Option Int} {f : Fault}
      (strict : Bool) (stops : QueryStops catalogue type text sort start rows f) :
      Ends catalogue endpoint outcome (.query type text sort start rows strict) [] (.error f)
  /-- The message fails, or a failure comes back. -/
  | unanswered {c : Command} {call : Call} {print : String → Except Fault String} {m : Http.Message}
      {f : Fault} (calls : c.Calls catalogue call print) (sends : endpoint.message call = m)
      (failed : (outcome m).settle (m.method ++ " " ++ m.url) = .error f) :
      Ends catalogue endpoint outcome c [m] (.error f)
  /-- The reply cannot be read, or what it holds cannot be printed. -/
  | unprinted {c : Command} {call : Call} {print : String → Except Fault String} {m : Http.Message}
      {reply : String} {f : Fault} (calls : c.Calls catalogue call print)
      (sends : endpoint.message call = m)
      (answered : (outcome m).settle (m.method ++ " " ++ m.url) = .ok reply)
      (failed : print reply = .error f) :
      Ends catalogue endpoint outcome c [m] (.error f)
  | printed {c : Command} {call : Call} {print : String → Except Fault String} {m : Http.Message}
      {reply output : String} (calls : c.Calls catalogue call print)
      (sends : endpoint.message call = m)
      (answered : (outcome m).settle (m.method ++ " " ++ m.url) = .ok reply)
      (printed : print reply = .ok output) :
      Ends catalogue endpoint outcome c [m] (.ok output)

variable {catalogue : Catalogue} {endpoint : Http.Endpoint} {outcome : Http.Message → Http.Outcome}
  {c : Command} {call : Call} {print : String → Except Fault String} {f : Fault}

/-- A query stops or has a call. -/
theorem stops_or_calls (catalogue : Catalogue) (type text : String) (sort : Option String)
    (start rows : Option Int) (strict : Bool) :
    (∃ f, QueryStops catalogue type text sort start rows f) ∨
      ∃ call print, Calls catalogue (.query type text sort start rows strict) call print := by
  cases loaded : catalogue.documentType type with
  | error f => exact Or.inl ⟨f, .unloaded loaded⟩
  | ok t =>
    cases sorted : sortInput sort with
    | error f => exact Or.inl ⟨f, .unsorted loaded sorted⟩
    | ok order =>
      cases made : Request.make (.raw text) order.toSorting (start.map .int) (rows.map .int) with
      | error f => exact Or.inl ⟨f, .refused loaded sorted made⟩
      | ok r =>
        cases built : Schema.build t with
        | error f => exact Or.inl ⟨f, .rejected loaded sorted made built⟩
        | ok s =>
          cases written : r.params with
          | error f => exact Or.inl ⟨f, .unwritten loaded sorted made built written⟩
          | ok params => exact Or.inr ⟨_, _, .query strict loaded sorted made built written⟩

/-- A command that makes a call ends in one of the known ways, whatever comes back. -/
theorem exists_ends_of_calls (endpoint : Http.Endpoint) (outcome : Http.Message → Http.Outcome)
    (h : c.Calls catalogue call print) :
    ∃ messages result, c.Ends catalogue endpoint outcome messages result := by
  cases answered : (outcome (endpoint.message call)).settle
      ((endpoint.message call).method ++ " " ++ (endpoint.message call).url) with
  | error f => exact ⟨_, _, .unanswered h rfl answered⟩
  | ok reply =>
    cases printed : print reply with
    | error f => exact ⟨_, _, .unprinted h rfl answered printed⟩
    | ok output => exact ⟨_, _, .printed h rfl answered printed⟩

/-- Every command ends in one of these ways. -/
theorem exists_ends (catalogue : Catalogue) (endpoint : Http.Endpoint)
    (outcome : Http.Message → Http.Outcome) (c : Command) :
    ∃ messages result, c.Ends catalogue endpoint outcome messages result := by
  cases c with
  | query type text sort start rows strict =>
    obtain ⟨f, hstops⟩ | ⟨call, print, hcalls⟩ := stops_or_calls catalogue type text sort start rows
      strict
    · exact ⟨_, _, .stopped strict hstops⟩
    · exact exists_ends_of_calls endpoint outcome hcalls
  | deleteByIds ids => exact exists_ends_of_calls endpoint outcome (.deleteByIds ids)
  | deleteByQuery text => exact exists_ends_of_calls endpoint outcome (.deleteByQuery text)
  | flush f w => exact exists_ends_of_calls endpoint outcome (.flush f w)

end Command

/-! ## Reports -/

/-- What a result is reported as: the exit code and the output. -/
def conclusion : Except Fault String → Nat × String
  | .ok output => (Ending.done.code, output)
  | .error f => (Ending.failed.code, errorLine (f.kind ++ ": " ++ f.message))

def Report.core (r : Report) : Nat × String := (r.exitCode, r.output)

theorem core_answerReport (notes : List Journal.Note) (answer : Except Fault Answer) :
    (answerReport notes answer).core = conclusion (answer >>= answerText) := by
  unfold answerReport
  change _ = conclusion (answer.bind answerText)
  cases answer.bind answerText <;> rfl

namespace Command

variable {σ : Type} {catalogue : Catalogue} {endpoint : Http.Endpoint} {c : Command}
  {messages : List Http.Message} {result : Except Fault String} {call : Call}
  {print : String → Except Fault String} {f : Fault}

/-- The search that a query on the command line stands for. -/
theorem operation_query (catalogue : Catalogue) (type text : String) (sort : Option String)
    (start rows : Option Int) (strict : Bool) :
    (Command.query type text sort start rows strict).operation catalogue = do
      let t ← catalogue.documentType type
      let order ← sortInput sort
      return (⟨strict, false⟩, .search (.type t) (.text text) order (start.map .int)
        (rows.map .int)) := by
  rw [operation]
  refine congrArg (catalogue.documentType type >>= ·) (funext fun t ↦ ?_)
  unfold sortInput
  cases sort with
  | none => rfl
  | some s =>
    by_cases h : s.isEmpty = true
    · simp only [if_pos h]
      rfl
    · simp only [if_neg h]

/-- The client and the operation of a command that has a call send it. -/
theorem sends_of_calls (h : c.Calls catalogue call print) :
    ∃ client o read, c.operation catalogue = .ok (client, o) ∧
    client.Sends o call read ∧ print = fun reply ↦ read reply >>= answerText := by
  cases h with
  | query strict loaded sorted made built written =>
    refine ⟨⟨strict, false⟩, _, _, ?_, @Client.Sends.search _ _ _ (.text _) _ _ _ _ _ built made
      written, rfl⟩
    rw [operation_query, loaded]
    exact bind_eq_ok.2 ⟨_, rfl, bind_eq_ok.2 ⟨_, sorted, rfl⟩⟩
  | deleteByIds ids =>
    have htexts : List.Forall₂ (fun v text ↦ v.literal = .ok text) (ids.map Value.text) ids := by
      rw [List.forall₂_map_left_iff, List.forall₂_same]
      exact fun id _ ↦ Value.literal_text id
    exact ⟨_, _, _, rfl, .deleteByIds htexts, rfl⟩
  | deleteByQuery text => exact ⟨_, _, _, rfl, .deleteByQuery rfl, rfl⟩
  | flush f w => exact ⟨_, _, _, rfl, .flush f w, rfl⟩

/-- A query that stops has no operation, or one without a plan. -/
theorem plan_of_stops {type text : String} {sort : Option String} {start rows : Option Int}
    (h : QueryStops catalogue type text sort start rows f) (strict : Bool) :
    (Command.query type text sort start rows strict).operation catalogue = .error f ∨
      ∃ client o, (Command.query type text sort start rows strict).operation catalogue =
        .ok (client, o) ∧
        client.plan o = .error f := by
  rw [operation_query]
  cases h with
  | unloaded failed =>
    rw [failed]
    exact Or.inl rfl
  | unsorted loaded failed =>
    rw [loaded, failed]
    exact Or.inl rfl
  | refused loaded sorted failed =>
    rw [loaded, sorted]
    exact Or.inr ⟨_, _, rfl, bind_eq_error.2 (Or.inl failed)⟩
  | rejected loaded sorted made failed =>
    rw [loaded, sorted]
    exact Or.inr ⟨_, _, rfl, bind_eq_error.2 (Or.inr ⟨_, made, bind_eq_error.2 (Or.inl failed)⟩)⟩
  | unwritten loaded sorted made built failed =>
    rw [loaded, sorted]
    refine Or.inr ⟨_, _, rfl,
      bind_eq_error.2 (Or.inr ⟨_, made, bind_eq_error.2 (Or.inr ⟨_, built, ?_⟩)⟩)⟩
    rw [map_eq_error]
    exact bind_eq_error.2 (Or.inl failed)

variable {session : Http.Message → σ → Http.Outcome × σ} {link : σ}

/-- A command runs the operation that it stands for. -/
theorem run_of_operation {client : Client} {o : Operation}
    (h : c.operation catalogue = .ok (client, o)) (connection : Connection σ) (link : σ)
    (notes : List Journal.Note) :
    c.run catalogue connection link notes =
      (answerReport (notes ++ ((Session.start link).perform client connection o).1.notes)
        ((Session.start link).perform client connection o).1.result,
        ((Session.start link).perform client connection o).2.link) := by
  rw [run, h]

/-- What a result is reported as, in the session that a command is performed in. -/
theorem core_run_of_operation {client : Client} {o : Operation}
    (h : c.operation catalogue = .ok (client, o)) (connection : Connection σ) (link : σ)
    (notes : List Journal.Note) :
    (c.run catalogue connection link notes).1.core =
      conclusion (((Session.start link).perform client connection o).1.result >>= answerText) := by
  rw [run_of_operation h]
  exact core_answerReport ..

/-- A command that has a call sends the message of it, and the outcome decides what is reported. -/
theorem run_of_calls (h : c.Calls catalogue call print) (notes : List Journal.Note) :
    (c.run catalogue (endpoint.connection session) link notes).1.core =
        conclusion ((session (endpoint.message call) link).1.settle
          ((endpoint.message call).method ++ " " ++ (endpoint.message call).url) >>= print) ∧
      (c.run catalogue (endpoint.connection (recorded session)) (link, []) notes).2.2 =
        [endpoint.message call] := by
  obtain ⟨client, o, read, hoperation, hsends, rfl⟩ := sends_of_calls h
  obtain ⟨hmessages, hresult⟩ : (Session.start link).messages client endpoint session o = _ ∧
      ((Session.start link).perform client (endpoint.connection session) o).1.result = _ :=
    Session.result_of_sends (Session.sound_start link) hsends
  rw [core_run_of_operation hoperation, run_of_operation hoperation, hresult, bind_assoc]
  exact ⟨rfl, hmessages⟩

/-- A query that stops sends nothing. -/
theorem run_of_stops {type text : String} {sort : Option String} {start rows : Option Int}
    {strict : Bool} (h : QueryStops catalogue type text sort start rows f)
    (notes : List Journal.Note) :
    let c : Command := .query type text sort start rows strict
    (c.run catalogue (endpoint.connection session) link notes).1.core = conclusion (.error f) ∧
      (c.run catalogue (endpoint.connection (recorded session)) (link, []) notes).2.2 = [] := by
  intro c
  obtain hnone | ⟨client, o, hoperation, hplan⟩ := plan_of_stops h strict
  · rw [run, run, hnone]
    exact ⟨rfl, rfl⟩
  · have hcall : client.call? o = none := by
      rw [Client.call?, hplan]
      rfl
    have hmessages : (Session.start link).messages client endpoint session o = _ :=
      Session.messages_eq (Session.sound_start link)
    rw [hcall] at hmessages
    rw [core_run_of_operation hoperation, run_of_operation hoperation,
      Session.result_perform (Session.sound_start link), hplan]
    exact ⟨rfl, hmessages⟩

/-- What a command ends with is what is reported, and these are its messages. -/
theorem run_of_ends (h : c.Ends catalogue endpoint (fun m ↦ (session m link).1) messages result)
    (notes : List Journal.Note) :
    (c.run catalogue (endpoint.connection session) link notes).1.core = conclusion result ∧
      (c.run catalogue (endpoint.connection (recorded session)) (link, []) notes).2.2 =
        messages := by
  cases h with
  | stopped strict stops => exact run_of_stops stops notes
  | unanswered calls sends failed =>
    subst sends
    rw [(run_of_calls calls notes).1, failed]
    exact ⟨rfl, (run_of_calls calls notes).2⟩
  | unprinted calls sends answered failed =>
    subst sends
    rw [(run_of_calls calls notes).1, answered, ← failed]
    exact ⟨rfl, (run_of_calls calls notes).2⟩
  | printed calls sends answered printed =>
    subst sends
    rw [(run_of_calls calls notes).1, answered, ← printed]
    exact ⟨rfl, (run_of_calls calls notes).2⟩

/-- A record of the messages does not change what is reported. -/
theorem report_recorded (c : Command) (catalogue : Catalogue) (endpoint : Http.Endpoint)
    (session : Http.Message → σ → Http.Outcome × σ) (link : σ) (notes : List Journal.Note) :
    (c.run catalogue (endpoint.connection (recorded session)) (link, []) notes).1 =
      (c.run catalogue (endpoint.connection session) link notes).1 := by
  unfold run
  cases c.operation catalogue with
  | error f => rfl
  | ok found =>
    have hanswer := Session.perform_recorded (Session.start link) found.1 endpoint session found.2
    exact congrArg (fun answer : Traced Answer ↦ answerReport (notes ++ answer.notes) answer.result)
      hanswer

/-- A command leaves the session where its messages lead. -/
theorem link_run (c : Command) (catalogue : Catalogue) (endpoint : Http.Endpoint)
    (session : Http.Message → σ → Http.Outcome × σ) (link : σ) (notes : List Journal.Note) :
    (c.run catalogue (endpoint.connection session) link notes).2 =
      (c.run catalogue (endpoint.connection (recorded session)) (link, []) notes).2.2.foldl
        (fun link m ↦ (session m link).2) link := by
  unfold run
  cases c.operation catalogue with
  | error f => rfl
  | ok found => exact Session.link_eq_foldl_messages (Session.sound_start link)

/-! ### What is printed on the way -/

/-- Does no member of the documents that a command asks for print while it is read? -/
def IsSilent (catalogue : Catalogue) : Command → Prop
  | .query type .. =>
    ∀ t s, catalogue.documentType type = .ok t → Schema.build t = .ok s → s.IsSilent
  | _ => True

theorem isSilent_plan_of_operation {client : Client} {o : Operation} {plan : Plan}
    (hc : c.IsSilent catalogue) (h : c.operation catalogue = .ok (client, o))
    (hplan : client.plan o = .ok plan) : plan.IsSilent := by
  cases c with
  | query type text sort start rows strict =>
    rw [operation_query] at h
    obtain ⟨t, hloaded, h⟩ := bind_eq_ok.1 h
    obtain ⟨order, -, h⟩ := bind_eq_ok.1 h
    cases h
    obtain ⟨r, -, hplan⟩ := bind_eq_ok.1 hplan
    obtain ⟨s, hbuilt, hplan⟩ := bind_eq_ok.1 hplan
    obtain ⟨e, he, rfl⟩ := map_eq_ok.1 hplan
    obtain ⟨params, -, rfl⟩ := Client.question_eq_ok_iff.1 he
    exact Client.silent_readPage (hc t s hloaded hbuilt) _
  | deleteByIds | deleteByQuery =>
    cases h
    obtain ⟨_, -, hplan⟩ := bind_eq_ok.1 hplan
    cases hplan
    exact fun _ ↦ nofun
  | flush =>
    cases h
    cases hplan
    exact fun _ ↦ nofun

theorem notes_answerReport (notes : List Journal.Note) (answer : Except Fault Answer) :
    (answerReport notes answer).notes = notes := by
  unfold answerReport
  split <;> rfl

/-- Where no member prints, a command prints nothing on the way. -/
theorem silent_run {notes : List Journal.Note} (hc : c.IsSilent catalogue)
    (hnotes : ∀ n ∈ notes, n.isPrinted = false) :
    ∀ n ∈ (c.run catalogue (endpoint.connection session) link notes).1.notes, n.isPrinted =
      false := by
  cases h : c.operation catalogue with
  | error f =>
    rw [run, h]
    exact hnotes
  | ok found =>
    obtain ⟨client, o⟩ := found
    rw [run_of_operation h, notes_answerReport]
    refine List.forall_mem_append.2 ⟨hnotes, Session.silent_perform (Session.sound_start link)
      (fun call link ↦ ?_) fun plan ↦ isSilent_plan_of_operation hc h⟩
    exact List.forall_mem_singleton.2 rfl

/-! ### What is certain to fail -/

/-- Ways in which a query is certain to fail before there is a message. -/
inductive Unsendable (catalogue : Catalogue) : Command → Prop
  /-- The document type cannot be loaded. -/
  | type {type : String} {f : Fault} (text : String) (sort : Option String)
      (start rows : Option Int) (strict : Bool) (failed : catalogue.documentType type = .error f) :
      Unsendable catalogue (.query type text sort start rows strict)
  /-- The order is none. -/
  | sort {order : String} {f : Fault} (type text : String) (start rows : Option Int) (strict : Bool)
      (failed : Sorting.parse order = .error f) :
      Unsendable catalogue (.query type text (some order) start rows strict)
  /-- The page begins, or ends, below zero. -/
  | page {start rows : Option Int} {n : Int} (type text : String) (sort : Option String)
      (strict : Bool) (bound : n ∈ start ∨ n ∈ rows) (negative : n < 0) :
      Unsendable catalogue (.query type text sort start rows strict)
  /-- The document type has no schema. -/
  | schema {type : String} {t : DocumentType} {f : Fault} (text : String) (sort : Option String)
      (start rows : Option Int) (strict : Bool) (loaded : catalogue.documentType type = .ok t)
      (failed : Schema.build t = .error f) : Unsendable catalogue
      (.query type text sort start rows strict)

theorem exists_parse_of_sortInput {text : String} {order : SortInput}
    (h : sortInput (some text) = .ok order) :
    ∃ sorting, Sorting.parse text = .ok sorting := by
  by_cases htext : text.isEmpty = true
  · rw [String.isEmpty_iff.1 htext]
    exact ⟨_, rfl⟩
  · rw [sortInput, if_neg htext] at h
    obtain ⟨sorting, hsorting, -⟩ := map_eq_ok.1 h
    exact ⟨sorting, hsorting⟩

/-- A command that cannot be sent makes no call. -/
theorem not_calls_of_unsendable (h : c.Unsendable catalogue) : ¬ c.Calls catalogue call print := by
  intro hcalls
  cases hcalls with
  | query strict loaded sorted made built written =>
    obtain ⟨hstart, hrows, -⟩ := Request.make_eq_ok_iff.1 made
    cases h with
    | type text sort start rows strict failed => cases loaded.symm.trans failed
    | sort type text start rows strict failed =>
      obtain ⟨sorting, hsorting⟩ := exists_parse_of_sortInput sorted
      cases hsorting.symm.trans failed
    | @page start rows n type text sort strict bound negative =>
      have hbound : (Value.int n).isNegative = .ok false := by
        rcases bound with h | h
        · exact hstart _ (Option.mem_map_of_mem _ h)
        · exact hrows _ (Option.mem_map_of_mem _ h)
      rw [Value.isNegative_of_integer? rfl, decide_eq_true negative] at hbound
      cases hbound
    | schema text sort start rows strict loaded' failed =>
      cases loaded.symm.trans loaded'
      cases built.symm.trans failed
  | deleteByIds | deleteByQuery | flush => cases h

/-- What a command prints for a reply is an object that tells of success. -/
theorem Calls.prints (h : c.Calls catalogue call print) {reply output : String}
    (hprint : print reply = .ok output) :
    Prints "ok" output := by
  cases h with
  | query strict loaded sorted made built written =>
    obtain ⟨a, hpage, htext⟩ := bind_eq_ok.1 hprint
    obtain ⟨r, -, rfl⟩ := map_eq_ok.1 hpage
    exact prints_answerText (by rintro _ ⟨⟩) htext
  | deleteByIds | deleteByQuery | flush => exact prints_answerText (by rintro _ ⟨⟩) hprint

variable {outcome : Http.Message → Http.Outcome}

/-- However a command ends, it sends one message at most. -/
theorem Ends.length_le (h : c.Ends catalogue endpoint outcome messages result) :
    messages.length ≤ 1 := by
  cases h with
  | stopped => exact Nat.zero_le 1
  | unanswered | unprinted | printed => exact Nat.le_refl 1

/-- Success sends exactly one message and prints one object. -/
theorem Ends.of_ok {output : String} (h : c.Ends catalogue endpoint outcome messages (.ok output)) :
    messages.length = 1 ∧ Prints "ok" output ∧ ¬ c.Unsendable catalogue := by
  cases h with
  | printed calls sends answered printed =>
    exact ⟨rfl, calls.prints printed, fun hc ↦ not_calls_of_unsendable hc calls⟩

/-- A command that cannot be sent sends no message. -/
theorem Ends.of_unsendable (h : c.Ends catalogue endpoint outcome messages result)
    (hc : c.Unsendable catalogue) :
    messages = [] := by
  cases h with
  | stopped => rfl
  | unanswered calls | unprinted calls | printed calls =>
    exact absurd calls (not_calls_of_unsendable hc)

end Command

end TypedSearch.CommandLine
