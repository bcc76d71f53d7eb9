import TypedSearch.Document.Instance
import TypedSearch.Markup.Printer
import TypedSearch.Query.Clause

/-!
# Updates

The commands that change the index, as elements: documents to add, documents to delete by their
identifiers or by a query, and the two that make changes visible.

## What is covered

The bodies of all commands, up to the text that is sent. A document sends its members in the order
of its schema, and a member that is null sends nothing.
-/

namespace TypedSearch.Update

open Markup

def textElement (tag : String) (attributes : List (String × String)) (text : String) : Element :=
  .mk tag attributes text []

def parentElement (tag : String) (children : List Element) : Element := .mk tag [] "" children

/-! ## Adding documents -/

/-- The texts that a member sends: none for null, one for a single value, one for each item of a
container. -/
def textsOf (f : Field) (v : Value) : Except Fault (List String) :=
  if v = .null then .ok []
  else if f.content.isContainer then
    match v.items? with
    | some items => items.mapM Value.literal
    | none => .error (.wrongType "object is not iterable")
  else v.literal.map ([·])

/-- The wire name and texts that a member of a document sends, as pairs. -/
def pairsOf (d : Document) (f : Field) : Except Fault (List (String × String)) :=
  (textsOf f (d.read f.member)).map fun ts ↦ ts.map fun t ↦ (f.wireName, t)

/-- The wire names and texts that a document sends, in the order of its members. -/
def fieldsOf (s : Schema) (d : Document) : Except Fault (List (String × String)) :=
  (s.fields.mapM (pairsOf d)).map List.flatten

def documentElement (fields : List (String × String)) : Element :=
  parentElement "doc" (fields.map fun p ↦ textElement "field" [("name", p.1)] p.2)

/-- The command to add documents, given what each of them sends. -/
def addElement (documents : List (List (String × String))) : Element :=
  parentElement "add" (documents.map documentElement)

/-! ## Deleting documents -/

/-- The command to delete the documents with some identifiers, given as texts. -/
def deleteElement (ids : List String) : Element :=
  parentElement "delete" (ids.map (textElement "id" []))

/-- The command to delete the documents with some identifiers. -/
def deleteByIds (ids : List Value) : Except Fault Element :=
  (ids.mapM Value.literal).map deleteElement

def deleteByQueryText (query : String) : Element :=
  parentElement "delete" [textElement "query" [] query]

/-! ## Making changes visible -/

/-- The two commands that make changes visible. -/
inductive Flush where
  | commit
  | optimize
deriving DecidableEq, Repr

def Flush.tag : Flush → String
  | .commit => "commit"
  | .optimize => "optimize"

/-- What to wait for; what is not set is left to the server. -/
structure Waiting where
  flush : Option Bool
  searcher : Option Bool
deriving DecidableEq, Repr

namespace Waiting

/-- A wish as a value: null leaves it open. -/
def wish (v : Value) : Option Bool := if v = .null then none else some v.isTrue

def ofValues (flush searcher : Value) : Waiting := ⟨wish flush, wish searcher⟩

def wishAttribute (name : String) : Option Bool → List (String × String)
  | none => []
  | some b => [(name, if b then "true" else "false")]

def attributes (w : Waiting) : List (String × String) :=
  wishAttribute "waitFlush" w.flush ++ wishAttribute "waitSearcher" w.searcher

end Waiting

def flushElement (f : Flush) (w : Waiting) : Element := textElement f.tag w.attributes ""

def body (e : Element) : String := .ofList e.print

end TypedSearch.Update
