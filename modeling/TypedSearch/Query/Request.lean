import TypedSearch.Query.Clause
import TypedSearch.Query.Sort
import TypedSearch.Value.Order

/-!
# Requests

What is asked of the server in one search: an expression, an order and a page. `Request.make`
refuses a page with a negative bound, so a request never carries one.

## What is covered

`Request.make` checks the bounds and `Request.params` is `to_params`. A negative bound that is too
long to be written fails while it is reported, as `checkBound` says.
-/

namespace TypedSearch.Query

/-- The parameters of one search. A bound that is not set is left to the server. -/
structure Request where
  query : Expression
  sort : Sorting
  start : Option Value
  rows : Option Value
deriving DecidableEq

namespace Request

def checkBound (name : String) : Option Value → Except Fault Unit
  | none => .ok ()
  | some v => do
    if ← v.isNegative then
      throw (.request (.negative name (← v.display?)))

def make (query : Expression) (sort : Sorting) (start rows : Option Value) :
    Except Fault Request := do
  checkBound "start" start
  checkBound "rows" rows
  return ⟨query, sort, start, rows⟩

def empty : Request := ⟨.empty, .empty, none, none⟩

def boundParam (name : String) : Option Value → Except Fault (List (String × String))
  | none => .ok []
  | some v => v.display?.map fun s ↦ [(name, s)]

def sortParam (s : Sorting) : List (String × String) :=
  if s.keys.isEmpty then [] else [("sort", s.render)]

def params (r : Request) : Except Fault (List (String × String)) := do
  let q ← r.query.render
  let start ← boundParam "start" r.start
  let rows ← boundParam "rows" r.rows
  return ("q", q) :: sortParam r.sort ++ start ++ rows

end Request

end TypedSearch.Query
