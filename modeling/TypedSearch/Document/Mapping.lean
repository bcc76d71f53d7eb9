import TypedSearch.Assembly
import TypedSearch.Document.Caller
import TypedSearch.Document.Instance

/-!
# Mapping

From a record of typed texts to a document. Each entry of the record sets the member its wire name
reaches; entries that reach none are passed over, or refused by a strict mapper.

## What is covered

`Mapper.map` is the operation `map`. Faults of conversions are wrapped here and nowhere else: what a
constructor raises, or a member when it is set, comes out as it is.
-/

namespace TypedSearch

/-- One typed text, or array of typed texts, of a record. -/
structure Entry where
  wireName : String
  tag : String
  text : String
  items : List Assembly.Item
deriving DecidableEq, Repr

/-- The entries of one document of a response, in order. -/
structure Record where
  entries : List Entry
deriving DecidableEq, Repr

/-- How records become documents. -/
structure Mapper where
  schema : Schema
  strict : Bool
deriving DecidableEq

def arrayTag : String := "arr"

/-- The value that a member takes from an entry: an array is assembled, anything else is converted
by the member's kind; types are called as `call` says. -/
def Field.convert (f : Field) (call : Conversion.Caller) (e : Entry) : Except Fault Value :=
  if e.tag == arrayTag then Assembly.assembleBy call f.type e.items
  else match f.content with
    | .scalar k => Conversion.convertAsBy call k f.type e.text
    | .container _ => .error (.unreadable e.text f.type.name none)

/-- What the type of a member prints while it takes an entry. Types that print do not fail. -/
def Field.printed (f : Field) (e : Entry) : List String :=
  match f.content with
  | .scalar _ => if e.tag != arrayTag && f.type.inner.prints then [e.text] else []
  | .container s =>
    if e.tag == arrayTag && s.element?.any (·.inner.prints) then e.items.map Assembly.Item.text
      else []

namespace Mapper

def droppedNote (t : DocumentType) (wireName : String) : Journal.Note :=
  ⟨.debug, .mapper, "Dropping unmapped field '" ++ wireName ++ "' for " ++ t.name⟩

def step (m : Mapper) (d : Document) (e : Entry) : Traced Document :=
  match m.schema.lookup e.wireName with
  | some f => do
    Traced.tell ((f.printed e).map .ofPrinted)
    let v ← Traced.ofExcept (f.convert m.schema.type.call e)
    Traced.ofExcept (d.assign f.member v)
  | none =>
    if m.strict then .fail (.unmapped e.wireName m.schema.type.name)
    else do
      Traced.note (droppedNote m.schema.type e.wireName)
      return d

def newDocument (m : Mapper) : Except Fault Document := Document.new m.schema.type

def map (m : Mapper) (r : Record) : Traced Document := do
  let d ← Traced.ofExcept m.newDocument
  r.entries.foldlM m.step d

end Mapper

end TypedSearch
