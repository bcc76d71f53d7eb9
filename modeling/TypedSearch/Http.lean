import TypedSearch.Client.Transport
import TypedSearch.Settings.Environment

/-!
# Calls over HTTP

A call becomes one message below the base address of the server. The session that carries the
message, and what its library makes of the status of an answer, are not part of this: an outcome
says whether the text of an answer was let pass, and if not, what was raised. Failures of HTTP and
other failures of a request are faults of the connection, the former with their status if they carry
one; anything else that is raised passes through.
-/

namespace TypedSearch.Http

open Settings

/-- What a message carries. -/
inductive Payload where
  | params (ps : List (String × String))
  | body (text contentType : String)
deriving DecidableEq, Repr

structure Message where
  method : String
  url : String
  timeout : Value
  payload : Payload
deriving DecidableEq

/-- What is raised where no text is had for a message. -/
inductive Failure where
  /-- A failure of HTTP, with the status of the answer that it carries. -/
  | http (reason : String) (status : Option Int)
  /-- Any other failure of a request. -/
  | request (reason : String)
  /-- What is no failure of a request. -/
  | foreign (kind message : String)
deriving DecidableEq, Repr

/-- How a message ends. -/
inductive Outcome where
  /-- An answer arrives, and the check of its status lets it pass or raises. -/
  | answer (text : String) (verdict : Option Failure)
  | failure (f : Failure)
deriving DecidableEq, Repr

def Outcome.silence : Outcome := .answer "" none

/-- What a failure means for the call that the message was for. -/
def Failure.fault (call : String) : Failure → Fault
  | .http reason status => .connection (call ++ " failed: " ++ reason) status
  | .request reason => .connection (call ++ " failed: " ++ reason) none
  | .foreign kind message => .foreign kind message

/-- What an outcome means for the call that the message was for. -/
def Outcome.settle (call : String) : Outcome → Except Fault String
  | .answer text none => .ok text
  | .answer _ (some f) | .failure f => .error (f.fault call)

def commandType : String := "text/xml; charset=utf-8"

/-- Where messages go and how long their answers may take. -/
structure Endpoint where
  base : String
  timeout : Value
deriving DecidableEq

namespace Endpoint

/-- The endpoint that a caller wants; what is left open the variables of the process decide. -/
def of (vs : Variables) (base : Option String) (timeout : Option Value) : Endpoint where
  base := withoutTrailingSlashes (match base with
    | none => processUrl vs
    | some b => if b.isEmpty then processUrl vs else b)
  timeout := timeout.getD (.float (processTimeout vs))

/-- The address of a path: one slash stands between it and the base. -/
def url (e : Endpoint) (path : String) : String :=
  e.base ++ "/" ++ .ofList (path.toList.dropWhile (· == '/'))

def message (e : Endpoint) : Call → Message
  | .get path params => ⟨"GET", e.url path, e.timeout, .params params⟩
  | .post path body => ⟨"POST", e.url path, e.timeout, .body body commandType⟩

def sendingNote (m : Message) : Journal.Note :=
  ⟨.debug, .connection, m.method ++ " " ++ m.url ++ " " ++ match m.payload with
    | .params ps => inspectParams ps
    | .body text _ => "(" ++ toString text.length ++ " bytes)"⟩

/-- Makes a call by way of a session, which turns a message into an outcome. -/
def connection {σ : Type} (e : Endpoint) (session : Message → σ → Outcome × σ) : Connection σ where
  send call s :=
    let m := e.message call
    let (outcome, s) := session m s
    (⟨[sendingNote m], outcome.settle (m.method ++ " " ++ m.url)⟩, s)

def scripted (e : Endpoint) : Connection (Script Message Outcome) :=
  e.connection fun m s ↦ s.next .silence m

end Endpoint

end TypedSearch.Http
