import TypedSearch.Named
import TypedSearch.Text.Blank
import TypedSearch.Text.Line

/-!
# Files of variables

A file of variables holds one assignment `KEY=value` a line, in quotes or not. Blank lines, comments
and lines without an equals sign say nothing. A key that is assigned again keeps its place and takes
the later value.
-/

namespace TypedSearch.Settings

open Text

/-- Variables with their values, in the order of their first assignment. -/
abbrev Variables := List (String × String)

namespace Dotenv

/-- A value without the quotes around it: double ones first, then single ones. -/
def unquote (cs : List Char) : List Char := strip (· == '\'') (strip (· == '"') cs)

def assignment? (line : List Char) : Option (String × String) :=
  let line := trim line
  if line.head? == some '#' then none
  else match cut '=' line with
    | (_, none) => none
    | (key, some value) =>
      if (trim key).isEmpty then none
      else some (.ofList (trim key), .ofList (unquote (trim value)))

def update (vs : Variables) (ls : List (List Char)) : Variables :=
  (ls.filterMap assignment?).foldl (fun vs a ↦ putNamed Prod.fst a vs) vs

def read (cs : List Char) : Variables := update [] (lines cs)

example : read "A = 1\n# B=2\nC='x'\nA=\"3\"".toList = [("A", "3"), ("C", "x")] := by decide +kernel

end Dotenv

end TypedSearch.Settings
