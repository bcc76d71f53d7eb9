/-!
# Rows of named values

Rows in which values are found by their names. A value is put in the place of the one with its name,
as a later entry of a dictionary is, or kept only where its name is new.
-/

namespace TypedSearch

/-- Puts a value with a name in place of the one with the same name, or at the end. -/
def putNamed {α : Type} (nameOf : α → String) (x : α) : List α → List α
  | [] => [x]
  | y :: ys => if nameOf y == nameOf x then x :: ys else y :: putNamed nameOf x ys

/-- Puts a value with a name at the end, unless one with the same name is there. -/
def keepNamed {α : Type} (nameOf : α → String) (x : α) (xs : List α) : List α :=
  if xs.any fun y ↦ nameOf y == nameOf x then xs else xs ++ [x]

end TypedSearch
