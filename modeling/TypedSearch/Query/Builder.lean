import TypedSearch.Document.Instance
import TypedSearch.Document.Registry
import TypedSearch.Query.Request

/-!
# Building queries

A query grows step by step, and every step gives a new builder. In between a builder may wait for
the value of a field or for the upper end of a range, and after a range it can still settle whether
the ends count.

## What is covered

A `Step` is a call of one method of a builder, of a field that waits for its value or of a range
that waits for its upper end. A stage that lacks the method fails before the arguments are looked
at.
-/

namespace TypedSearch.Query

/-- A query under construction. After a range its bounds may be included or excluded. -/
structure Builder where
  request : Request
  isRanged : Bool
deriving DecidableEq

namespace Builder

def start : Builder := ⟨.empty, false⟩

def withQuery (b : Builder) (query : Expression) (isRanged : Bool) : Builder :=
  ⟨{ b.request with query := query }, isRanged⟩

def addClause (b : Builder) (c : Clause) : Builder :=
  b.withQuery (b.request.query.append c) c.isRange

def byRange (b : Builder) (field : String) (lower upper : Value) : Builder :=
  b.addClause (.range field lower upper true)

def whereText (b : Builder) (text : String) : Builder := b.addClause (.raw text)

def orderBy (b : Builder) (field : String) (direction : Direction) : Builder :=
  ⟨{ b.request with sort := b.request.sort.andThen field direction }, false⟩

/-- The builder with another page; a bound that is not given is no longer set. -/
def paginate (b : Builder) (start rows : Option Value) : Except Fault Builder :=
  (Request.make b.request.query b.request.sort start rows).map (⟨·, false⟩)

/-- The builder with the ends of its last range included or excluded. -/
def toggle (b : Builder) (inclusive : Bool) : Except Fault Builder :=
  match b.request.query.clauses.getLast? with
  | some (.range field lower upper _) =>
    (b.request.query.replaceLast (.range field lower upper inclusive)).map (b.withQuery · true)
  | _ => .error (.request .noRange)

/-- The clause that a member stands for in an example: an equality for a single value that is not
nothing to ask for. -/
def exampleClause (d : Document) (f : Field) : Except Fault (List Clause) :=
  if f.content.isContainer then .ok []
  else
    let v := d.read f.member
    (f.isDefault v).map fun isDefault ↦ if isDefault then [] else [.equality f.wireName v]

/-- The clauses that a document stands for as an example, in the order of its members. -/
def exampleClauses (s : Schema) (d : Document) : Except Fault (List Clause) :=
  (s.fields.mapM (exampleClause d)).map List.flatten

def byExample (b : Builder) (s : Schema) (d : Document) : Except Fault Builder :=
  (exampleClauses s d).map fun cs ↦ b.withQuery ⟨b.request.query.clauses ++ cs⟩ false

end Builder

/-- Where the construction of a query stands. -/
inductive Stage where
  | builder (b : Builder)
  /-- A field waits for its value. -/
  | field (b : Builder) (name : String)
  /-- A field waits for the upper end of its range. -/
  | bound (b : Builder) (name : String) (lower : Value)
deriving DecidableEq

inductive Step where
  | field (name : String)
  | equals (value : Value) (escape : Bool)
  | between (lower : Value)
  | upTo (upper : Value)
  | range (field : String) (lower upper : Value)
  | inclusive
  | exclusive
  | whereText (text : String)
  /-- The order is given by its name; without one it is the ascending one. -/
  | orderBy (field : String) (order : Option String)
  | paginate (start rows : Option Value)
  | byExample (d : Document)
  | build
  | toQuery
  | run
deriving DecidableEq

namespace Stage

def name : Stage → String
  | .builder b => if b.isRanged then "RangeQueryBuilder" else "QueryBuilder"
  | .field .. => "FieldQuery"
  | .bound .. => "RangeBound"

def offers : Stage → Step → Bool
  | .builder b, .inclusive | .builder b, .exclusive => b.isRanged
  | .builder _, .equals .. | .builder _, .between _ | .builder _, .upTo _ => false
  | .builder _, _ => true
  | .field .., .equals .. | .field .., .between _ => true
  | .field .., _ => false
  | .bound .., .upTo _ => true
  | .bound .., _ => false

def missing (s : Stage) : Fault :=
  .noAttribute ("'" ++ s.name ++ "' object has no such attribute")

/-- The value of a field with its reserved characters escaped. -/
def escapedValue (v : Value) : Except Fault Value := v.literal.map fun s ↦ .text (escaped s)

def directionOf (order : Option String) : Except Fault Direction :=
  match order with
  | none => .ok .asc
  | some name => Direction.ofName name

/-- The stage after a step. An example is turned into clauses by `schemaOf`; the steps that end the
construction lead to no stage. -/
def advance (schemaOf : DocumentType → Except Fault Schema) (s : Stage) (step : Step) :
    Except Fault Stage :=
  match s, step with
  | .builder b, .field name => .ok (.field b name)
  | .field b name, .equals v escape =>
    (if escape then escapedValue v else .ok v).map fun v ↦
      .builder (b.addClause (.equality name v))
  | .field b name, .between lower => .ok (.bound b name lower)
  | .bound b name lower, .upTo upper => .ok (.builder (b.byRange name lower upper))
  | .builder b, .range n lower upper => .ok (.builder (b.byRange n lower upper))
  | .builder b, .inclusive =>
    if b.isRanged then (b.toggle true).map .builder else .error s.missing
  | .builder b, .exclusive =>
    if b.isRanged then (b.toggle false).map .builder else .error s.missing
  | .builder b, .whereText text => .ok (.builder (b.whereText text))
  | .builder b, .orderBy n order => (directionOf order).map fun d ↦ .builder (b.orderBy n d)
  | .builder b, .paginate start rows => (b.paginate start rows).map .builder
  | .builder b, .byExample d => do
    let schema ← schemaOf d.type
    (b.byExample schema d).map .builder
  | s, _ => .error s.missing

/-- The stage after a step, with the schema of an example from the registry. -/
def take (s : Stage) (step : Step) : Resolving Stage :=
  match s, step with
  | .builder b, .byExample d => do
    let schema ← Resolving.resolve (.type d.type)
    Resolving.ofExcept ((b.byExample schema d).map .builder)
  | s, step => Resolving.ofExcept (s.advance Schema.build step)

end Stage

end TypedSearch.Query
