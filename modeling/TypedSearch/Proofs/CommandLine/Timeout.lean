import TypedSearch.Proofs.CommandLine.Contract

/-!
# How long a command line waits

The number of seconds that the messages of a command line may take comes from the first of the
switches and the variables that gives one (`Invocation.wanted?`), and from the variables of the
process alone if that number is zero or below. It is above zero but for one case: a not-a-number
that was asked for stays (`waits_positive_or_nan`).
-/

namespace TypedSearch.CommandLine

open Settings

/-- The number of seconds that the switches ask for, or else the variables of the process, or else
those of the file. -/
def Invocation.wanted? (i : Invocation) (environment : Environment) : Option Binary64 :=
  i.timeout.or ((environment.get? timeoutVariable).bind Binary64.readPadded)

/-- The number of seconds that the messages of a command line may take. -/
def Invocation.seconds (i : Invocation) (environment : Environment) : Binary64 :=
  match i.wanted? environment with
  | some x => if x.isZero || x.isNegative then processTimeout environment.process else x
  | none => processTimeout environment.process

variable (i : Invocation) (environment : Environment)

theorem Invocation.result_timeout : (environment.timeout (i.timeout.map .float)).result =
    .ok ((i.wanted? environment).bind fun x ↦ if x.isZero || x.isNegative then none
      else some (.float x)) := by
  unfold wanted? Environment.timeout
  cases i.timeout with
  | some x => exact Environment.result_positiveOrNone x _
  | none =>
    simp only [Option.map_none, Option.none_or]
    cases (environment.get? timeoutVariable).bind Binary64.readPadded with
    | some x => exact Environment.result_positiveOrNone x _
    | none => rfl

theorem Invocation.timeout_endpoint :
    (i.endpoint environment).timeout = .float (i.seconds environment) := by
  rw [endpoint, result_timeout, seconds, Http.Endpoint.of]
  cases i.wanted? environment with
  | none => rfl
  | some x =>
    change Option.getD (if _ then _ else _) _ = Value.float (if _ then _ else _)
    split <;> rfl

variable {i environment}

/-- A number of seconds that was asked for counts if it is above zero or none at all; else the
process decides. -/
theorem Invocation.seconds_cases :
    (∃ x, i.wanted? environment = some x ∧ (x.IsPositive ∨ x = .nan) ∧
      i.seconds environment = x) ∨
    (∀ x ∈ i.wanted? environment, ¬ x.IsPositive ∧ x ≠ .nan) ∧
      i.seconds environment = processTimeout environment.process := by
  unfold seconds
  cases hwanted : i.wanted? environment with
  | none => exact Or.inr ⟨by simp, rfl⟩
  | some x =>
    dsimp only
    rcases x.isPositive_or with hx | hx | rfl
    · exact Or.inl ⟨x, rfl, Or.inl hx, if_neg (by simp [hx.not_dropped])⟩
    · refine Or.inr ⟨?_, if_pos hx⟩
      rintro y ⟨⟩
      refine ⟨fun hy ↦ ?_, ?_⟩
      · rw [hy.not_dropped] at hx
        cases hx
      · rintro rfl
        cases hx
    · exact Or.inl ⟨.nan, rfl, Or.inr rfl, rfl⟩

/-- Every message that a command sends waits as long as its endpoint says. -/
theorem Command.Ends.timeout_eq {catalogue : Catalogue} {endpoint : Http.Endpoint}
    {outcome : Http.Message → Http.Outcome} {c : Command} {sent : List Http.Message}
    {result : Except Fault String} (h : c.Ends catalogue endpoint outcome sent result) :
    ∀ m ∈ sent, m.timeout = endpoint.timeout := by
  have hmessage : ∀ call, (endpoint.message call).timeout = endpoint.timeout :=
    fun call ↦ by cases call <;> rfl
  cases h with
  | stopped => simp
  | unanswered _ sends | unprinted _ sends | printed _ sends => simp [← sends, hmessage]

/-! ## Main statement -/

/-- A command line waits for a number of seconds above zero, or for a not-a-number, and the latter
only if the first of the switches and the variables that gives a number gives that. A number above
zero that is given there is the one; if none is given, or one that is zero or below, the variables
of the process decide, and their number is above zero. -/
theorem waits_positive_or_nan {words : List String} {i : Invocation}
    (accepted : Invocation.read words = .ok i) {σ : Type} (catalogue : Catalogue)
    (environment : Environment) (session : Http.Message → σ → Http.Outcome × σ) (link : σ) :
    ∃ x : Binary64, (i.endpoint environment).timeout = .float x ∧
      (∀ m ∈ messages catalogue environment session link words, m.timeout = .float x) ∧
      (x.IsPositive ∨ x = .nan) ∧ (x = .nan ↔ i.wanted? environment = some .nan) ∧
      (∀ y ∈ i.wanted? environment, y.IsPositive → x = y) ∧
      ((∀ y ∈ i.wanted? environment, ¬ y.IsPositive ∧ y ≠ .nan) →
        x = processTimeout environment.process) ∧
      (processTimeout environment.process).IsPositive := by
  have hprocess := isPositive_processTimeout environment.process
  have hendpoint := i.timeout_endpoint environment
  have hsent : ∀ m ∈ messages catalogue environment session link words, m.timeout =
      .float (i.seconds environment) := by
    rcases run_cases catalogue environment session link accepted with ⟨-, -, hsent⟩ | ⟨c, result, -,
      -, hends⟩
    · simp [hsent]
    · rw [← hendpoint]
      exact hends.timeout_eq
  refine ⟨i.seconds environment, hendpoint, hsent, ?_⟩
  rcases @Invocation.seconds_cases i environment with ⟨x, hwanted, hx, hseconds⟩ | ⟨hwanted,
    hseconds⟩
  · rw [hseconds, hwanted]
    refine ⟨hx, by simp, by simp, fun h ↦ ?_, hprocess⟩
    obtain ⟨hnot, hnan⟩ := h x rfl
    exact absurd hx (not_or.2 ⟨hnot, hnan⟩)
  · rw [hseconds]
    refine ⟨Or.inl hprocess, ⟨fun h ↦ ?_, fun h ↦ absurd rfl (hwanted _ h).2⟩,
      fun y hy h ↦ absurd h (hwanted y hy).1, fun _ ↦ rfl, hprocess⟩
    exact absurd (h ▸ hprocess) Binary64.not_isPositive_nan

/-- A number that is rounded to zero from below does not count, and the not-a-number of the process
does not either. -/
theorem waits_positive_or_nan_rounded :
    let words := ["--timeout=-1e-400", "commit"]
    let environment : Environment := ⟨[("SOLR_HTTP_TIMEOUT", "nan")], []⟩
    ∃ i, Invocation.read words = .ok i ∧ (i.endpoint environment).timeout = .float defaultTimeout ∧
      defaultTimeout.IsPositive := by
  intro words environment
  have hread : Invocation.read words =
      .ok ⟨none, some (.zero true), some (.flush .commit ⟨none, none⟩)⟩ := by decide +kernel
  have hdefault : processTimeout environment.process = defaultTimeout := by decide +kernel
  obtain ⟨x, hendpoint, -, -, -, -, hfallback, hpositive⟩ :=
    waits_positive_or_nan hread ⟨[], []⟩ environment (fun _ (s : Unit) ↦ (.silence, s)) ()
  rw [hfallback (by rintro y ⟨⟩; exact ⟨nofun, nofun⟩), hdefault] at hendpoint
  rw [hdefault] at hpositive
  exact ⟨_, hread, hendpoint, hpositive⟩

/-- A not-a-number that the caller gives is waited for, and it is not above zero. -/
theorem waits_nan :
    let words := ["--timeout", "nan", "commit"]
    ∃ i, Invocation.read words = .ok i ∧ (i.endpoint ⟨[], []⟩).timeout = .float .nan ∧
      (messages ⟨[], []⟩ ⟨[], []⟩ (fun _ (s : Unit) ↦ (.silence, s)) () words).map
        Http.Message.timeout =
        [.float .nan] ∧
      ¬ Binary64.IsPositive .nan := by
  intro words
  have hread : Invocation.read words =
      .ok ⟨none, some .nan, some (.flush .commit ⟨none, none⟩)⟩ := by decide +kernel
  refine ⟨_, hread, rfl, ?_, Binary64.not_isPositive_nan⟩
  rw [messages, run_of_read _ _ _ _ hread]
  rfl

end TypedSearch.CommandLine
