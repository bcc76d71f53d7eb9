import TypedSearch.Assembly
import TypedSearch.Document.Schema

/-!
# Calling the types of members

The type of a member may be a function that came up in its annotation. To call it, the annotations
are gone through again, which brings the same function up.
-/

namespace TypedSearch

namespace DocumentType

/-- What something that is called makes of a text. A result that is no plain value is beyond
this. -/
def answer (t : DocumentType) (reader : Declared) (s : String) : Except Conversion.Setback Value :=
  let asked : Declared.Building Declared := do
    let _ ← t.layers.foldlM (Schema.layerHints t.scope) []
    let run := Annotation.Runner.ofDepth t.scope Annotation.Runner.maxDepth
    Annotation.callIn run .empty reader [.constant (.text s)] []
  match asked.run' (.ofBuilt t.scope.built) with
  | .ok (.constant v) => .ok v
  | .ok _ => .error (.escaped (.unsupported reader.name))
  | .error f => .error (.ofFault f)

/-- What the types of the members of a document type make of a text when they are called. -/
def call (t : DocumentType) : Conversion.Caller := fun target s ↦
  match target with
  | .reader r =>
    if r.reading == .refusal then t.answer target s else Conversion.call target s
  | target => Conversion.call target s

end DocumentType

end TypedSearch
