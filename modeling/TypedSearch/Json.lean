import TypedSearch.Number.Binary64
import TypedSearch.Number.Whole
import TypedSearch.Text.Quoted

/-!
# JSON texts

Printing of JSON values, on one line or spread over several. All output is ASCII: characters beyond
it are escaped as UTF-16 units. Numbers that are not finite are printed by name.

## What is covered

The two layouts that the program prints. Keys are texts and stand in the order in which they are
given.
-/

namespace TypedSearch

open Text

/-- A JSON value; an object keeps its members in order. -/
inductive Json where
  | null
  | bool (b : Bool)
  | int (n : Int)
  | float (x : Binary64)
  | text (s : String)
  | array (xs : List Json)
  | object (members : List (String × Json))
deriving Inhabited

namespace Json

/-! ## Texts and numbers -/

/-- The escape of a UTF-16 unit. -/
def unitEscape (n : Nat) : List Char := '\\' :: 'u' :: hexadecimal 4 n

def textChar (c : Char) : List Char :=
  let n := c.toNat
  if c == '"' || c == '\\' then ['\\', c]
  else if c == '\n' then ['\\', 'n']
  else if c == '\r' then ['\\', 'r']
  else if c == '\t' then ['\\', 't']
  else if n == 12 then ['\\', 'f']
  else if n == 8 then ['\\', 'b']
  else if 32 ≤ n && n ≤ 126 then [c]
  else if n < 0x10000 then unitEscape n
  else unitEscape (0xD800 + (n - 0x10000) / 0x400) ++ unitEscape (0xDC00 + (n - 0x10000) % 0x400)

def textChars (s : String) : List Char := '"' :: (s.toList.flatMap textChar ++ ['"'])

def floatChars : Binary64 → List Char
  | .nan => "NaN".toList
  | .infinite negative => (if negative then ['-'] else []) ++ "Infinity".toList
  | x => x.write

/-! ## On one line -/

mutual

def line : Json → List Char
  | .null => "null".toList
  | .bool b => (if b then "true" else "false").toList
  | .int n => Whole.write n
  | .float x => floatChars x
  | .text s => textChars s
  | .array xs => '[' :: (lineItems xs ++ [']'])
  | .object members => '{' :: (lineMembers members ++ ['}'])

def lineItems : List Json → List Char
  | [] => []
  | [x] => line x
  | x :: y :: xs => line x ++ ',' :: ' ' :: lineItems (y :: xs)

def lineMembers : List (String × Json) → List Char
  | [] => []
  | [(k, v)] => textChars k ++ ':' :: ' ' :: line v
  | (k, v) :: m :: ms => textChars k ++ ':' :: ' ' :: line v ++ ',' :: ' ' :: lineMembers (m :: ms)

end

/-! ## On several lines -/

def newLine (depth : Nat) : List Char := '\n' :: List.replicate (2 * depth) ' '

mutual

/-- A value on several lines; what stands inside is a level deeper. -/
def block (depth : Nat) : Json → List Char
  | .array [] => "[]".toList
  | .object [] => "\x7b\x7d".toList
  | .array xs => '[' :: (blockItems (depth + 1) xs ++ newLine depth ++ [']'])
  | .object members => '{' :: (blockMembers (depth + 1) members ++ newLine depth ++ ['}'])
  | .null => line .null
  | .bool b => line (.bool b)
  | .int n => line (.int n)
  | .float x => line (.float x)
  | .text s => line (.text s)

/-- The items of an array, each on lines of its own. -/
def blockItems (depth : Nat) : List Json → List Char
  | [] => []
  | [x] => newLine depth ++ block depth x
  | x :: y :: xs => newLine depth ++ block depth x ++ ',' :: blockItems depth (y :: xs)

/-- The members of an object, each on lines of its own. -/
def blockMembers (depth : Nat) : List (String × Json) → List Char
  | [] => []
  | [(k, v)] => newLine depth ++ textChars k ++ ':' :: ' ' :: block depth v
  | (k, v) :: m :: ms =>
    newLine depth ++ textChars k ++ ':' :: ' ' :: block depth v ++ ',' :: blockMembers depth
      (m :: ms)

end

def render (x : Json) : String := .ofList x.line

def renderBlock (x : Json) : String := .ofList (x.block 0)

example : (object [("a", array [int 1, text "é"]), ("b", object [])]).render =
    "\x7b\"a\": [1, \"\\u00e9\"], \"b\": \x7b\x7d\x7d" := by decide +kernel

end Json

end TypedSearch
