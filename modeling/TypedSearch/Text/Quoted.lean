import TypedSearch.Text.Printable

/-!
# Quoted text

How a text is shown inside a message: between quotes, with a backslash before what would end it and
escapes for what cannot be printed.
-/

namespace TypedSearch.Text

/-- The quote put around a text: a single one, unless the text holds single quotes and no double
ones. -/
def quoteFor (cs : List Char) : Char :=
  if cs.contains '\'' && !cs.contains '"' then '"' else '\''

/-- A number in lower-case hexadecimal with at least `width` digits. -/
def hexadecimal (width n : Nat) : List Char :=
  let ds := Nat.toDigits 16 n
  List.replicate (width - ds.length) '0' ++ ds

/-- The escape of a character by its code point, in the shortest of the three forms. -/
def codePointEscape (n : Nat) : List Char :=
  if n < 0x100 then '\\' :: 'x' :: hexadecimal 2 n
  else if n < 0x10000 then '\\' :: 'u' :: hexadecimal 4 n
  else '\\' :: 'U' :: hexadecimal 8 n

def quoteChar (quote c : Char) : List Char :=
  if c == quote || c == '\\' then ['\\', c]
  else if c == '\n' then ['\\', 'n']
  else if c == '\r' then ['\\', 'r']
  else if c == '\t' then ['\\', 't']
  else if isPrintable c then [c]
  else codePointEscape c.toNat

def quoted (s : String) : String :=
  let cs := s.toList
  let q := quoteFor cs
  .ofList (q :: (cs.flatMap (quoteChar q) ++ [q]))

/-- A text with the characters beyond ASCII escaped. -/
def asciiOnly (s : String) : String :=
  .ofList (s.toList.flatMap fun c ↦ if c.toNat < 128 then [c] else codePointEscape c.toNat)

def quoteByte (quote : Char) (b : UInt8) : List Char :=
  if b < 128 then quoteChar quote (Char.ofNat b.toNat) else codePointEscape b.toNat

/-- A row of octets between quotes, marked by a leading `b`. -/
def quotedBytes (bs : List UInt8) : String :=
  let q := if bs.contains 39 && !bs.contains 34 then '"' else '\''
  .ofList ('b' :: q :: (bs.flatMap (quoteByte q) ++ [q]))

end TypedSearch.Text
