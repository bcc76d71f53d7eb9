import TypedSearch.Client.Transport
import TypedSearch.Query.Builder
import TypedSearch.Response
import TypedSearch.Update

/-!
# Operations of a client

Every operation is worked out in full before anything is sent: `Client.prepare` ends in a fault, in
an answer that needs no server, or in one call together with the way its reply is read.

## What is covered

One operation for each method of a client. A query is run by its last step; one that ends otherwise
fails. Documents that are handed in are of types that can be inspected. The log of a request is
carried as notes.
-/

namespace TypedSearch

open Query

inductive QueryInput where
  | text (s : String)
  | expression (e : Expression)
deriving DecidableEq

namespace QueryInput

/-- The expression that is meant; a text stands for itself. -/
def toExpression : QueryInput → Expression
  | .text s => .raw s
  | .expression e => e

def render : QueryInput → Except Fault String
  | .text s => .ok s
  | .expression e => e.render

end QueryInput

/-- An order as it is handed in. -/
inductive SortInput where
  | none
  | key (k : SortKey)
  | keys (ks : List SortKey)
  | sorting (s : Sorting)
deriving DecidableEq

def SortInput.toSorting : SortInput → Sorting
  | .none => .empty
  | .key k => ⟨[k]⟩
  | .keys ks => ⟨ks⟩
  | .sorting s => s

/-- What a client can be asked to do. -/
inductive Operation where
  | register (c : Candidate)
  | search (c : Candidate) (query : QueryInput) (sort : SortInput) (start rows : Option Value)
  /-- A query built step by step. -/
  | query (c : Candidate) (steps : List Step)
  | add (documents : List Document)
  | deleteByIds (ids : List Value)
  | deleteByQuery (query : QueryInput)
  | flush (f : Update.Flush) (w : Update.Waiting)
deriving DecidableEq

inductive Answer where
  | schema (s : Schema)
  | page (r : ResultSet)
  | reply (text : String)
deriving DecidableEq

/-- A call that is ready to be made, and how its reply is read. -/
structure Exchange where
  call : Call
  read : String → Traced Answer

/-- The same call, after which something fails however it is answered. -/
def Exchange.failAfter (e : Exchange) (f : Fault) : Exchange where
  call := e.call
  read reply := do
    let _ ← e.read reply
    .fail f

/-- An operation that is worked out. -/
inductive Plan where
  /-- Nothing needs to be sent. -/
  | settled (a : Answer)
  | exchange (e : Exchange)

/-- How a client treats responses. -/
structure Client where
  strict : Bool
  skipInvalid : Bool
deriving DecidableEq, Repr

namespace Client

def selectPath : String := "/select"

def updatePath : String := "/update"

/-- The reader of responses that hold documents of a schema. -/
def reader (c : Client) (s : Schema) : ResponseReader := ⟨⟨s, c.strict⟩, c.skipInvalid⟩

def readPage (c : Client) (s : Schema) (reply : String) : Traced Answer :=
  return .page (← (c.reader s).read (.text reply))

def selectNote (params : List (String × String)) : Journal.Note :=
  ⟨.debug, .query, "GET " ++ selectPath ++ " " ++ inspectParams params⟩

def updateNote (body : String) : Journal.Note :=
  ⟨.debug, .update, "POST " ++ updatePath ++ " " ++ body⟩

def select (c : Client) (s : Schema) (r : Request) : Resolving Exchange := do
  let params ← Resolving.ofExcept r.params
  Resolving.note (selectNote params)
  return ⟨.get selectPath params, c.readPage s⟩

def command (e : Markup.Element) : Resolving Exchange := do
  let body := Update.body e
  Resolving.note (updateNote body)
  return ⟨.post updatePath body, fun reply ↦ pure (.reply reply)⟩

/-- The fault of a query that does not end with being run. -/
def unfinished : Fault := .noAttribute "object has no such attribute"

/-- Goes on with a query from a stage; the last step should run it. -/
def continueQuery (c : Client) (s : Schema) : Stage → List Step → Resolving Exchange
  | _, [] => throw unfinished
  | .builder b, .run :: rest => do
    let e ← c.select s b.request
    return if rest.isEmpty then e else e.failAfter unfinished
  | .builder b, .toQuery :: _ => do
    let _ ← Resolving.ofExcept b.request.query.render
    throw unfinished
  | stage, step :: rest => do
    let stage ← stage.take step
    c.continueQuery s stage rest

def prepare (c : Client) : Operation → Resolving Plan
  | .register d => return .settled (.schema (← Resolving.resolve d))
  | .search d query sort start rows => do
    let request ← Resolving.ofExcept (Request.make query.toExpression sort.toSorting start rows)
    let s ← Resolving.resolve d
    return .exchange (← c.select s request)
  | .query d steps => do
    let s ← Resolving.resolve d
    return .exchange (← c.continueQuery s (.builder .start) steps)
  | .add documents => do
    let rows ← documents.mapM fun d ↦ do
      let s ← Resolving.resolve (.type d.type)
      Resolving.ofExcept (Update.fieldsOf s d)
    return .exchange (← command (Update.addElement rows))
  | .deleteByIds ids => do
    return .exchange (← command (← Resolving.ofExcept (Update.deleteByIds ids)))
  | .deleteByQuery query => do
    let text ← Resolving.ofExcept query.render
    return .exchange (← command (Update.deleteByQueryText text))
  | .flush f w => return .exchange (← command (Update.flushElement f w))

end Client

end TypedSearch
