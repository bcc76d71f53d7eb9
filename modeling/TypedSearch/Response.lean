import TypedSearch.Document.Mapping
import TypedSearch.Markup.Encoding

/-!
# Responses

From the text of a response to the documents it holds. A record that does not map ends the reading,
or, if the reader is told to skip such records, is noted down and left out. What is wrong with the
envelope always ends it.

## What is covered

`ResponseReader.read` is the operation `parse`: the envelope, then one record after the other.
-/

namespace TypedSearch

open Markup

/-- The documents of one page, and the number of all that match. -/
structure ResultSet where
  totalFound : Int
  documents : List Document
deriving DecidableEq

namespace ResultSet

def empty : ResultSet := ⟨0, []⟩

/-- Is a place within the range of signed words of 64 bits? -/
def isPlace (i : Int) : Bool := -(twoTo 63 : Int) ≤ i && i < (twoTo 63 : Int)

/-- The document at a place; places below zero count from the end. -/
def item (r : ResultSet) (i : Int) : Except Fault Document :=
  let n : Int := r.documents.length
  let j := if i < 0 then i + n else i
  if !isPlace i then .error .beyondIndex
  else match (if 0 ≤ j then r.documents[j.toNat]? else none) with
  | some d => .ok d
  | none => .error .outOfRange

end ResultSet

def Entry.ofElement (e : Element) : Except Fault Entry :=
  match e.attribute? "name" with
  | none => .error (.response (.unnamedField e.tag))
  | some name => .ok ⟨name, e.tag, e.text, e.children.map fun c ↦ ⟨c.tag, c.text⟩⟩

def Record.ofElement (e : Element) : Except Fault Record :=
  (e.children.mapM Entry.ofElement).map (⟨·⟩)

/-- The outcome of a computation as a value, so that a failure does not end what comes after. -/
def Traced.attempt {α : Type} (x : Traced α) : Traced (Except Fault α) := ⟨x.notes, .ok x.result⟩

structure ResponseReader where
  mapper : Mapper
  skipInvalid : Bool
deriving DecidableEq

namespace ResponseReader

def skippedNote (i : Nat) (f : Fault) : Journal.Note :=
  ⟨.warning, .parser, "Skipping record " ++ toString i ++ ": " ++ f.kind ++ ": " ++ f.message⟩

/-- The documents of the records from the one with index `i` on. -/
def collect (r : ResponseReader) : Nat → List Element → Traced (List Document)
  | _, [] => pure []
  | i, e :: es => do
    let record ← Traced.ofExcept (Record.ofElement e)
    match ← (r.mapper.map record).attempt with
    | .ok d => return d :: (← r.collect (i + 1) es)
    | .error f =>
      if r.skipInvalid && f.isDomain then do
        Traced.note (skippedNote i f)
        r.collect (i + 1) es
      else .fail f

/-- The number of matches that a result element tells. -/
def countOf (result : Element) : Except Fault Int :=
  match result.attribute? "numFound" with
  | none => .error (.response .noCount)
  | some s => match Whole.readPadded s with
    | none => .error (.response (.badCount s))
    | some n => .ok n

def resultOf (root : Element) : Except Fault Element :=
  if root.tag != "response" then .error (.response (.wrongRoot root.tag))
  else match root.child? "result" with
    | none => .error (.response .noResult)
    | some result => .ok result

def readElement (r : ResponseReader) (root : Element) : Traced ResultSet := do
  let result ← Traced.ofExcept (resultOf root)
  let total ← Traced.ofExcept (countOf result)
  let documents ← r.collect 0 (result.childrenNamed "doc")
  return ⟨total, documents⟩

def read (r : ResponseReader) (s : Source) : Traced ResultSet := do
  r.readElement (← Traced.ofExcept s.read)

end ResponseReader

end TypedSearch
