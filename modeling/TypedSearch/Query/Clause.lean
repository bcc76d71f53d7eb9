import TypedSearch.Query.Literal

/-!
# Clauses and expressions

A query is a row of clauses, all of which a document should meet. Clauses keep their values until
they are rendered, so a range can still change its mind about its bounds.

## What is covered

The three clauses and the expression that holds them, with `append`, `replace_last` and `to_query`.
-/

namespace TypedSearch.Query

/-- A condition on documents. -/
inductive Clause where
  | equality (field : String) (value : Value)
  /-- One flag covers both bounds. -/
  | range (field : String) (lower upper : Value) (inclusive : Bool)
  /-- Text written by the caller. -/
  | raw (text : String)
deriving DecidableEq

namespace Clause

def render : Clause → Except Fault String
  | .equality field value => do
    let v ← value.literal
    return field ++ ":" ++ v
  | .range field lower upper inclusive => do
    let l ← lower.literal
    let u ← upper.literal
    let (opening, closing) := if inclusive then ("[", "]") else ("\x7b", "\x7d")
    return field ++ ":" ++ opening ++ l ++ " TO " ++ u ++ closing
  | .raw text => .ok text

def isRange : Clause → Bool
  | .range .. => true
  | _ => false

/-- The same range with its bounds included or excluded; other clauses stay as they are. -/
def withInclusive (inclusive : Bool) : Clause → Clause
  | .range field lower upper _ => .range field lower upper inclusive
  | c => c

@[simp] theorem isRange_withInclusive (b : Bool) (c : Clause) :
    (c.withInclusive b).isRange = c.isRange := by cases c <;> rfl

@[simp] theorem withInclusive_withInclusive (a b : Bool) (c : Clause) :
    (c.withInclusive a).withInclusive b = c.withInclusive b := by cases c <;> rfl

end Clause

/-- A conjunction of clauses, in the order they were added. -/
structure Expression where
  clauses : List Clause
deriving DecidableEq

namespace Expression

def empty : Expression := ⟨[]⟩

/-- An expression made of text written by the caller. -/
def raw (text : String) : Expression := ⟨[.raw text]⟩

def append (e : Expression) (c : Clause) : Expression := ⟨e.clauses ++ [c]⟩

def replaceLast (e : Expression) (c : Clause) : Except Fault Expression :=
  if e.clauses.isEmpty then .error .noClauses else .ok ⟨e.clauses.dropLast ++ [c]⟩

def texts (e : Expression) : Except Fault (List String) := e.clauses.mapM Clause.render

/-- The text of an expression: its clauses with single spaces between them. -/
def render (e : Expression) : Except Fault String := e.texts.map (" ".intercalate ·)

@[simp] theorem clauses_append (e : Expression) (c : Clause) :
    (e.append c).clauses = e.clauses ++ [c] := rfl

end Expression

end TypedSearch.Query
