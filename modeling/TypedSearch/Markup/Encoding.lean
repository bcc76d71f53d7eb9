import TypedSearch.Fault
import TypedSearch.Markup.Codepage
import TypedSearch.Markup.Document
import TypedSearch.Text.Utf8

/-!
# Encodings of documents

From octets to the text of a document. A byte order mark or the zeros of UTF-16 decide first, then
the encoding that the declaration at the start names, and UTF-8 is what is left. A document that
arrives as text is the same as its octets in UTF-8, except that its declaration is not asked.

The encodings that begin with Latin-1, which are Latin-1 itself and UTF-16, have more letters than
the others.

## What is covered

`Source.read` reads a whole document, a text or octets, and has one fault for all that is malformed;
where a document goes wrong is not told. What a document refers to outside of itself is not fetched.
-/

namespace TypedSearch.Markup

open Text

abbrev malformed : Fault := .response .malformed

def pairValue (bigEndian : Bool) (a b : UInt8) : Nat :=
  if bigEndian then a.toNat * 256 + b.toNat else b.toNat * 256 + a.toNat

/-- The character that a UTF-16 unit begins, together with the unit after it: the first half of a
pair takes the low bits of whatever comes next. -/
def joinUnits (n m : Nat) : Char := Char.ofNat (0x10000 + (n - 0xD800) * 0x400 + m % 0x400)

/-- The characters of a row of octets in UTF-16 up to the first that stands for nothing, and whether
that is all of them. -/
def decodeUtf16 (bigEndian : Bool) : List UInt8 → List Char × Bool
  | [] => ([], true)
  | [_] => ([], false)
  | a :: b :: rest =>
    let n := pairValue bigEndian a b
    if 0xD800 ≤ n ∧ n < 0xDC00 then
      match rest with
      | c :: d :: rest =>
        let (cs, complete) := decodeUtf16 bigEndian rest
        (joinUnits n (pairValue bigEndian c d) :: cs, complete)
      | _ => ([], false)
    else if 0xDC00 ≤ n ∧ n < 0xE000 then ([], false)
    else
      let (cs, complete) := decodeUtf16 bigEndian rest
      (Char.ofNat n :: cs, complete)

/-- The characters whose numbers are the given octets. -/
def latinChars (bs : List UInt8) : List Char := bs.map fun b ↦ Char.ofNat b.toNat

/-- The characters of octets that are all ASCII. -/
def decodeAscii (bs : List UInt8) : Option (List Char) :=
  if bs.all (· < 128) then some (latinChars bs) else none

def decodePage (upper : List Char) (bs : List UInt8) : Option (List Char) :=
  let table := upper.toArray
  bs.mapM fun (b : UInt8) ↦
    if b < 128 then some (Char.ofNat b.toNat)
    else match table[b.toNat - 128]? with
      | some c => if c.toNat == 0xFFFD then none else some c
      | none => none

/-- What an answer of nothing means: the document cannot be read. -/
def orMalformed {α : Type} : Option α → Except Fault α
  | some x => .ok x
  | none => .error malformed

/-- The characters of octets under a charset that goes by some name. -/
def Charset.decode (name : String) (bs : List UInt8) : Charset → Except Fault (List Char)
  | .ascii => orMalformed (decodeAscii bs)
  | .asciiWithout c => orMalformed ((decodeAscii bs).filter fun cs ↦ !cs.contains c)
  | .latin => .ok (latinChars bs)
  | .page upper => orMalformed (decodePage upper.toList bs)
  | .wide => .error .wideEncoding
  | .foreign => .error malformed
  | .transformation => .error (.notTextEncoding name)
  | .failing kind detail => .error (.foreign kind detail)

/-- A document as far as its encoding goes. -/
structure Script where
  letters : Alphabet
  chars : List Char
deriving DecidableEq

/-- The characters of octets, one or more for each, in the encoding with a name. Latin-1 goes by one
name only; by its others it is a code page like any. -/
def decodeNamed (name : List Char) (bs : List UInt8) : Except Fault Script :=
  let folded := String.ofList (name.map Char.toLower)
  if folded == "utf-8" then (orMalformed (Utf8.decode bs)).map (⟨.plain, ·⟩)
  else if folded == "iso-8859-1" then .ok ⟨.latin, latinChars bs⟩
  else if folded == "us-ascii" then (orMalformed (decodeAscii bs)).map (⟨.plain, ·⟩)
  else if ["utf-16", "utf-16be", "utf-16le"].contains folded then .error malformed
  else match Charset.named? (.ofList name) with
    | some c => (c.decode (.ofList name) bs).map (⟨.plain, ·⟩)
    | none => .error (.unknownEncoding (.ofList name))

/-- The characters of octets that share ASCII, in the encoding that their declaration names. -/
def decodeOctets (bs : List UInt8) : Except Fault Script :=
  match takeHeading (latinChars bs) with
  | none => .error malformed
  | some (heading, _) => match heading.encoding with
    | some name => decodeNamed name bs
    | none => (orMalformed (Utf8.decode bs)).map (⟨.plain, ·⟩)

/-- Checks the encoding that the beginning of a document in UTF-16 declares: it has to be the one it
is in. -/
def checkWide (bigEndian : Bool) (cs : List Char) : Except Fault Unit :=
  match takeHeading cs with
  | some (⟨some name, _⟩, _) =>
    let plain := String.ofList (name.map Char.toLower)
    if plain == "utf-16" || plain == (if bigEndian then "utf-16be" else "utf-16le") then .ok ()
    else match decodeNamed name [] with
      | .error f => .error f
      | .ok _ => .error malformed
  | _ => .ok ()

/-- The characters of octets in UTF-16. The declared encoding is looked at first. -/
def decodeWide (bigEndian : Bool) (bs : List UInt8) : Except Fault Script := do
  let (cs, complete) := decodeUtf16 bigEndian bs
  checkWide bigEndian cs
  if complete then return ⟨.latin, cs⟩ else .error malformed

def decode (bs : List UInt8) : Except Fault Script :=
  match bs with
  | 0xFE :: 0xFF :: rest => decodeWide true rest
  | 0xFF :: 0xFE :: rest => decodeWide false rest
  | 0xEF :: 0xBB :: 0xBF :: rest => decodeOctets rest
  | 0 :: _ => decodeWide true bs
  | _ :: 0 :: _ => decodeWide false bs
  | _ => decodeOctets bs

/-- The characters of a document that arrives as text. A zero among its first two characters makes
UTF-16 of its octets. -/
def decodeText (s : String) : Option Script :=
  let wide (bigEndian : Bool) : Option Script :=
    let (cs, complete) := decodeUtf16 bigEndian s.toUTF8.toList
    if complete then some ⟨.latin, cs⟩ else none
  match s.toUTF8.toList with
  | 0 :: _ => wide true
  | _ :: 0 :: _ => wide false
  | _ => match s.toList with
    | '\ufeff' :: cs => some ⟨.plain, cs⟩
    | cs => some ⟨.plain, cs⟩

/-- A document as it arrives: as text, or as octets that say themselves how they are encoded. -/
inductive Source where
  | text (s : String)
  | octets (bs : List UInt8)
deriving DecidableEq

def Script.read (octets : Nat) (s : Script) : Option Element := Markup.read s.letters octets s.chars

def Source.read : Source → Except Fault Element
  | .text s => orMalformed (do (← decodeText s).read s.utf8ByteSize)
  | .octets bs => do orMalformed ((← decode bs).read bs.length)

end TypedSearch.Markup
