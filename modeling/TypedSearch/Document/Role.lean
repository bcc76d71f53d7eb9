import TypedSearch.Annotation.Member
import TypedSearch.Text.Identifier

/-!
# Roles of members

What a member is to a dataclass: one of its fields, one of the class itself, or one that is only
handed to the constructor. Its annotation tells. Where that is a text, the names at its front tell,
as they stand in the module while the dataclass is made, and the rest of the text has no say.

## What is covered

Texts are told apart by the names at their front alone. So a text that only resolves to a class
variable, under a name that the module does not have yet, makes a field.
-/

namespace TypedSearch

open Text

/-- What a member is to a dataclass. -/
inductive Role where
  | field
  | ofClass
  /-- The constructor takes it and does not store it. -/
  | passed
deriving DecidableEq, Repr

namespace Role

/-- The word at the front of a text, behind blanks, and what follows it. -/
def firstWord? (cs : List Char) : Option (String × List Char) :=
  let cs := cs.dropWhile isBlank
  match cs.takeWhile isIdentifierChar with
  | [] => none
  | word => some (.ofList word, cs.dropWhile isIdentifierChar)

/-- The name at the front of a text, and the one before it if a point joins them. -/
def leadingNames? (cs : List Char) : Option (Option String × String) :=
  (firstWord? cs).map fun (first, rest) ↦
    match rest.dropWhile isBlank with
    | '.' :: rest => match firstWord? rest with
      | some (second, _) => (some first, second)
      | none => (none, first)
    | _ => (none, first)

def ofType : Declared → Role
  | .classVar _ | .special .classVar => .ofClass
  | .other c | .appliedOther c _ =>
    if c == Declared.passedClass then .passed else .field
  | _ => .field

/-- The role of a member with a text for a type, in a module with some names. -/
def ofText (names : List (String × Declared)) (s : String) : Role :=
  let named? := match leadingNames? s.toList with
    | some (none, name) => names.lookup name
    | some (some home, name) => match names.lookup home with
      | some (.reader r) =>
        if r.family == "module" then (Declared.modules.lookup r.label).bind (·.lookup name)
          else none
      | _ => none
    | none => none
  (named?.map ofType).getD .field

end Role

end TypedSearch
