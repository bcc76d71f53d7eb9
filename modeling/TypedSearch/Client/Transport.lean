import TypedSearch.Journal.Basic

/-!
# Transport

A client makes calls and gets texts back. How a call reaches the server is up to its connection,
which may change state on the way; `Script` is the one that answers from a list and remembers what
it was asked.

## What is covered

A connection can only be asked to make a call. It may fail in any way and change its state, and
equal calls need not have equal answers.
-/

namespace TypedSearch

/-- What is sent to the server: a question with parameters, or a command with a body. -/
inductive Call where
  | get (path : String) (params : List (String × String))
  | post (path body : String)
deriving DecidableEq, Repr

/-- A way to the server. -/
structure Connection (σ : Type) where
  send : Call → σ → Traced String × σ

/-- Answers that are still to be given, and the questions asked so far. -/
structure Script (α β : Type) where
  answers : List β
  asked : List α
deriving DecidableEq, Repr

namespace Script

variable {α β : Type}

def ofList (answers : List β) : Script α β := ⟨answers, []⟩

/-- The next answer; when none is left, `silence` stands in. -/
def next (silence : β) (question : α) (s : Script α β) : β × Script α β :=
  match s.answers with
  | [] => (silence, ⟨[], s.asked ++ [question]⟩)
  | a :: rest => (a, ⟨rest, s.asked ++ [question]⟩)

@[simp] theorem asked_next (silence : β) (q : α) (s : Script α β) :
    (s.next silence q).2.asked = s.asked ++ [q] := by
  unfold next
  split <;> rfl

/-- The connection that answers calls from a script, and with nothing when the script is at its
end. -/
def connection : Connection (Script Call (Except Fault String)) where
  send call s :=
    let (reply, s) := s.next (.ok "") call
    (.ofExcept reply, s)

end Script

/-- Names and texts as they stand in a note: in braces, each name before its text. -/
def inspectParams (params : List (String × String)) : String :=
  "\x7b" ++ ", ".intercalate (params.map fun p ↦ Text.quoted p.1 ++ ": " ++ Text.quoted p.2) ++
    "\x7d"

end TypedSearch
