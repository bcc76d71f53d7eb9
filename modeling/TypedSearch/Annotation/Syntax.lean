import TypedSearch.Declared.Basic
import TypedSearch.Value.Arithmetic

/-!
# Expressions of annotations

What an annotation may be: names, plain values, rows in brackets, what is attached to them by
points, brackets, calls and operators, rows that are gathered from elements, and functions without a
name.
-/

namespace TypedSearch.Annotation

/-- A comparison between two expressions. -/
inductive Comparison where
  | equal
  | different
  | less
  | atMost
  | greater
  | atLeast
  | identical
  | notIdentical
  | inside
  | notInside
deriving DecidableEq, Repr

/-- How a field of a quoted text is written. -/
inductive Conversion where
  | display
  | inspect
  | ascii
deriving DecidableEq, Repr

/-- What a clause binds when it has come to an element. -/
inductive Target where
  | name (s : String)
  /-- The items of the element, one target for each. -/
  | parts (targets : List Target)
  /-- Among such targets, the one for all items that the others leave, as a list. -/
  | others (target : Target)
deriving Repr, Inhabited

structure Parameters where
  /-- Those for arguments in order. -/
  ordered : List String
  /-- How many of these cannot be given by name. -/
  bare : Nat
  /-- The one for all further arguments in order. -/
  others : Option String
  /-- Those for arguments by name only. -/
  named : List String
  /-- The one for all further arguments by name. -/
  otherNamed : Option String
  /-- Those that may be left out, in the order in which they are written. -/
  optional : List String
deriving DecidableEq, Repr

namespace Parameters

def none : Parameters := ⟨[], 0, Option.none, [], Option.none, []⟩

def names (p : Parameters) : List String :=
  p.ordered ++ p.others.toList ++ p.named ++ p.otherNamed.toList

end Parameters

mutual

inductive Expr where
  | name (s : String)
  | value (v : Value)
  | dots
  /-- A quoted text with fields. -/
  | pattern (pieces : List Expr)
  /-- A field, with the pieces of the layout that its text gets. -/
  | field (e : Expr) (conversion : Option Conversion) (layout : List Expr)
  | row (form : RowForm) (items : List Expr)
  /-- The elements of an expression among the items of a row. -/
  | star (e : Expr)
  /-- The keys and values of an expression among those of a dictionary or among arguments by
  name. -/
  | pairs (e : Expr)
  /-- An argument given by name. -/
  | keyword (s : String) (e : Expr)
  /-- An expression that gets a name on the way. -/
  | given (s : String) (e : Expr)
  | member (e : Expr) (s : String)
  | subscript (e key : Expr)
  | call (e : Expr) (args : List Expr)
  | unary (op : UnaryOp) (e : Expr)
  | binary (op : BinaryOp) (a b : Expr)
  /-- A row of comparisons, each with the expression on its right. -/
  | compare (first : Expr) (comparisons : List Comparison) (others : List Expr)
  | both (a b : Expr)
  | either (a b : Expr)
  | choice (condition yes no : Expr)
  /-- A row of elements that clauses give. -/
  | gather (form : RowForm) (g : Gathering)
  /-- A function without a name, with what stands for the parameters that are left out. -/
  | function (parameters : Parameters) (substitutes : List Expr) (body : Expr)

/-- The clauses of a gathered row around its item, or its key and value. -/
inductive Gathering where
  | items (es : List Expr)
  | each (target : Target) (source : Expr) (body : Gathering)
  | given (condition : Expr) (body : Gathering)

end

instance : Inhabited Expr := ⟨.dots⟩

/-! ## Names given on the way -/

def Target.names : Target → List String
  | .name s => [s]
  | .parts targets => namesAll targets
  | .others t => t.names
where
  /-- The names that some targets bind. -/
  namesAll : List Target → List String
    | [] => []
    | t :: ts => t.names ++ namesAll ts

mutual

/-- The names that an expression gives on the way; those in the bodies of functions only if
`deep`. -/
def Expr.givenNames (deep : Bool) : Expr → List String
  | .name _ | .value _ | .dots => []
  | .given s e => s :: e.givenNames deep
  | .pattern es | .row _ es => givenNamesAll deep es
  | .field e _ es | .call e es => e.givenNames deep ++ givenNamesAll deep es
  | .star e | .pairs e | .keyword _ e | .member e _ | .unary _ e => e.givenNames deep
  | .subscript a b | .binary _ a b | .both a b | .either a b =>
    a.givenNames deep ++ b.givenNames deep
  | .compare e _ es => e.givenNames deep ++ givenNamesAll deep es
  | .choice a b c => a.givenNames deep ++ b.givenNames deep ++ c.givenNames deep
  | .gather _ g => g.givenNames deep
  | .function _ es body => givenNamesAll deep es ++ if deep then body.givenNames deep else []

def givenNamesAll (deep : Bool) : List Expr → List String
  | [] => []
  | e :: es => e.givenNames deep ++ givenNamesAll deep es

/-- The names that the expressions of clauses give on the way. -/
def Gathering.givenNames (deep : Bool) : Gathering → List String
  | .items es => givenNamesAll deep es
  | .each _ e g | .given e g => e.givenNames deep ++ g.givenNames deep

end

def Gathering.boundNames : Gathering → List String
  | .items _ => []
  | .each target _ body => target.names ++ body.boundNames
  | .given _ body => body.boundNames

/-- The names that are given on the way to the items of clauses and in their conditions. -/
def Gathering.innerNames : Gathering → List String
  | .items es => givenNamesAll false es
  | .each _ _ body => body.innerNames
  | .given condition body => condition.givenNames false ++ body.innerNames

/-- Are no names given on the way to the sources of clauses, not even in functions there? -/
def Gathering.hasPlainSources : Gathering → Bool
  | .items _ => true
  | .each _ source body => (source.givenNames true).isEmpty && body.hasPlainSources
  | .given _ body => body.hasPlainSources

/-- Do clauses keep to their rules about names given on the way: none is given to a source, and none
of those that the clauses bind is given again? -/
def Gathering.isOrderly (g : Gathering) : Bool :=
  g.hasPlainSources && g.innerNames.all fun s ↦ !g.boundNames.contains s

end TypedSearch.Annotation
