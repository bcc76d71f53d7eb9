import TypedSearch.Client.Operation

/-!
# Sessions

A client at work: its registry fills up from operation to operation, while each operation makes one
call at most.
-/

namespace TypedSearch

/-- The state between two operations: the registry and the state of the way to the server. -/
structure Session (σ : Type) where
  registry : Registry
  link : σ

namespace Session

variable {σ : Type}

def start (link : σ) : Session σ := ⟨.empty, link⟩

def carryOut (connection : Connection σ) (link : σ) : Plan → Traced Answer × σ
  | .settled a => (pure a, link)
  | .exchange e =>
    let (reply, link) := connection.send e.call link
    (reply >>= e.read, link)

/-- Performs an operation: the plan first, then the call it wants. -/
def perform (client : Client) (connection : Connection σ) (s : Session σ) (o : Operation) :
    Traced Answer × Session σ :=
  match (client.prepare o).run.run ⟨s.registry, []⟩ with
  | (.error f, ledger) => (⟨ledger.notes, .error f⟩, ⟨ledger.registry, s.link⟩)
  | (.ok plan, ledger) =>
    let (answer, link) := carryOut connection s.link plan
    (⟨ledger.notes ++ answer.notes, answer.result⟩, ⟨ledger.registry, link⟩)

/-- Performs operations one after the other; what fails does not keep the next ones from being
performed. -/
def performAll (client : Client) (connection : Connection σ) (s : Session σ) :
    List Operation → List (Traced Answer) × Session σ
  | [] => ([], s)
  | o :: os =>
    let (answer, s) := s.perform client connection o
    let (answers, s) := s.performAll client connection os
    (answer :: answers, s)

end Session

end TypedSearch
