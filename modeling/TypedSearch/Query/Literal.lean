import TypedSearch.Calendar.Timestamp
import TypedSearch.Value.Display

/-!
# Literals

The text of a value inside queries and update bodies, and the escapes that keep such a text from
being read as query syntax.

## What is covered

`Value.literal` is the operation `format_value` and `escape` is `escape_query_value`.
-/

namespace TypedSearch

open Text

/-- The text of a value in queries and update bodies: truth values in lower case, moments as
timestamps, decimals without a power of ten, members of enumerations by their value. -/
def Value.literal : Value → Except Fault String
  | .bool b => .ok (if b then "true" else "false")
  | .moment m => match Timestamp.write? m with
    | some cs => .ok (.ofList cs)
    | none => .error .calendarOverflow
  | .decimal d => .ok (.ofList d.positional)
  | .symbol _ _ value _ => value.display?
  | v => v.display?

@[simp] theorem Value.literal_bool (b : Bool) :
    (Value.bool b).literal = .ok (if b then "true" else "false") := rfl

@[simp] theorem Value.literal_text (s : String) : (Value.text s).literal = .ok s := rfl

@[simp] theorem Value.literal_decimal (d : Decimal) :
    (Value.decimal d).literal = .ok (.ofList d.positional) := rfl

namespace Query

/-! ## Escapes -/

/-- The characters that mean something to the query parser. -/
def reserved : List Char :=
  ['+', '-', '&', '|', '!', '(', ')', '{', '}', '[', ']', '^', '"', '~', '*', '?', ':', '\\', '/']

/-- Does the query parser read the character as anything but part of a word? -/
def isReserved (c : Char) : Bool := reserved.contains c || isBlank c

/-- A text with a backslash before every reserved character. -/
def escape : List Char → List Char
  | [] => []
  | c :: cs => if isReserved c then '\\' :: c :: escape cs else c :: escape cs

/-- `escape` on strings. -/
def escaped (s : String) : String := .ofList (escape s.toList)

end Query

end TypedSearch
