import TypedSearch.Proofs.Client.Plans

/-!
# Operations do not interfere

The one thing that the operations of a client share, apart from the way to the server, is its
registry. It stays sound through any history (`Session.sound_performAll`), and from a sound registry
an operation comes to its plan, whatever the registry holds. So what was performed before an
operation, and how it ended, does not show in what the operation calls and gives
(`Session.performs_as_alone`).
-/

namespace TypedSearch

/-- A script gives the answer that stands first. -/
theorem Script.result_send {s : Script Call (Except Fault String)} {a : Except Fault String}
    {rest : List (Except Fault String)} (h : s.answers = a :: rest) (call : Call) :
    (connection.send call s).1.result = a := by
  simp only [connection, next, h]
  rfl

namespace Session

variable {σ τ : Type} {s : Session σ} {client : Client} {connection : Connection σ}

theorem sound_start (link : σ) : (start link).registry.Sound := Registry.sound_empty

/-- Operations are performed from where those before them lead. -/
theorem performAll_append (s : Session σ) (client : Client) (connection : Connection σ)
    (before after : List Operation) :
    s.performAll client connection (before ++ after) =
      let (answers, s) := s.performAll client connection before
      let (more, s) := s.performAll client connection after
      (answers ++ more, s) := by
  induction before generalizing s with
  | nil => rfl
  | cons o os ih => simp only [List.cons_append, performAll, ih]

/-- Every operation of a history has its outcome. -/
theorem length_performAll (s : Session σ) (client : Client) (connection : Connection σ)
    (os : List Operation) :
    (s.performAll client connection os).1.length = os.length := by
  induction os generalizing s with
  | nil => rfl
  | cons o os ih => exact congrArg (· + 1) (ih _)

/-- No history makes a registry unsound. -/
theorem sound_performAll (h : s.registry.Sound) (client : Client) (connection : Connection σ)
    (os : List Operation) :
    (s.performAll client connection os).2.registry.Sound := by
  induction os generalizing s with
  | nil => exact h
  | cons o os ih => exact ih (sound_perform h client connection o)

/-- The answer to an operation stands among the answers in its place. -/
theorem getElem?_performAll (s : Session σ) (client : Client) (connection : Connection σ)
    (before after : List Operation) (o : Operation) :
    (s.performAll client connection (before ++ o :: after)).1[before.length]? =
      some ((s.performAll client connection before).2.perform client connection o).1 := by
  rw [performAll_append, ← length_performAll s client connection before]
  simp [performAll]

/-- Two sessions with sound registries give the same where the calls of an operation are answered
alike. -/
theorem result_perform_congr {s' : Session τ} {other : Connection τ} {o : Operation}
    (h : s.registry.Sound) (h' : s'.registry.Sound) (hreply : ∀ call ∈ client.call? o,
      (other.send call s'.link).1.result = (connection.send call s.link).1.result) :
    (s.perform client connection o).1.result = (s'.perform client other o).1.result := by
  rw [result_perform h, result_perform h']
  unfold Client.call? at hreply
  cases hplan : client.plan o with
  | error e => rfl
  | ok plan =>
    rw [hplan] at hreply
    exact Plan.answer_congr fun call hc ↦ (hreply call hc).symm

/-- In whatever history it stands, an operation makes the calls and gives the result or the fault
that it makes and gives alone, on a session that has just begun and whose connection answers those
calls in the same way. -/
theorem performs_as_alone (client : Client) (connection : Connection σ) (other : Connection τ)
    (link : σ) (link' : τ) (before after : List Operation) (o : Operation) :
    let reached := ((start link).performAll client connection before).2
    let alone := (start link').perform client other o
    (∀ call ∈ (start link').calls client other o,
      (other.send call link').1.result = (connection.send call reached.link).1.result) →
    ∃ answer, ((start link).performAll client connection (before ++ o :: after)).1[before.length]? =
      some answer ∧
      answer.result = alone.1.result ∧
      reached.calls client connection o = (start link').calls client other o := by
  intro reached alone hreply
  have hreached : reached.registry.Sound := sound_performAll (sound_start link) client connection
    before
  rw [calls_eq (sound_start link')] at hreply
  refine ⟨_, getElem?_performAll (start link) client connection before after o, ?_, ?_⟩
  · exact result_perform_congr hreached (sound_start link') fun call hc ↦
      hreply call (by simpa using hc)
  · rw [calls_eq hreached, calls_eq (sound_start link')]

/-- A response that counts documents and holds none of them. -/
def countOnly : String := "<response><result numFound=\"7\"/></response>"

theorem performs_as_alone_after_failures :
    let search (d : Candidate) : Operation := .search d (.text "*:*") .none none none
    let before := [search (.value .null), search (.type bookType)]
    let link : Script Call (Except Fault String) := .ofList [.error (.connection "down" none),
      .ok countOnly]
    ∃ answer, ((start link).performAll ⟨false, false⟩ Script.connection
        (before ++ [search (.type bookType)])).1[2]? = some answer ∧
      answer.result = .ok (.page ⟨7, []⟩) := by
  intro search before link
  have hanswers : ((start link).performAll ⟨false, false⟩ Script.connection before).2.link.answers =
      [.ok countOnly] := by decide +kernel
  obtain ⟨answer, hanswer, hresult, -⟩ := performs_as_alone ⟨false, false⟩ Script.connection
    Script.connection link (.ofList [.ok countOnly]) before [] (search (.type bookType))
    fun call _ ↦ (Script.result_send rfl call).trans (Script.result_send hanswers call).symm
  exact ⟨answer, hanswer, hresult.trans (Outcome.eq_ok_of_toOption (by decide +kernel))⟩

end Session

end TypedSearch
