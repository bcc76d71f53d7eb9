/-!
# UTF-8

Reading octets as UTF-8: `take` reads one character, `decode` wants nothing but characters, and
`salvage` passes over the octets at which no character starts.
-/

namespace TypedSearch.Text.Utf8

def isTail (b : UInt8) : Bool := 0x80 ≤ b && b ≤ 0xBF

def tailBits (b : UInt8) : Nat := b.toNat % 64

/-- The character that starts a row of octets, and the octets after it. Overlong forms, surrogates
and code points beyond the last plane start no character. -/
def take : List UInt8 → Option (Char × List UInt8)
  | [] => none
  | a :: rest =>
    if a < 0x80 then some (Char.ofNat a.toNat, rest)
    else if 0xC2 ≤ a && a ≤ 0xDF then
      match rest with
      | b :: rest =>
        if isTail b then some (Char.ofNat (a.toNat % 32 * 64 + tailBits b), rest) else none
      | _ => none
    else if 0xE0 ≤ a && a ≤ 0xEF then
      match rest with
      | b :: c :: rest =>
        if isTail b && isTail c && (a != 0xE0 || 0xA0 ≤ b) && (a != 0xED || b ≤ 0x9F) then
          some (Char.ofNat (a.toNat % 16 * 4096 + tailBits b * 64 + tailBits c), rest)
        else none
      | _ => none
    else if 0xF0 ≤ a && a ≤ 0xF4 then
      match rest with
      | b :: c :: d :: rest =>
        if isTail b && isTail c && isTail d && (a != 0xF0 || 0x90 ≤ b) &&
          (a != 0xF4 || b ≤ 0x8F) then
          some (Char.ofNat
            (a.toNat % 8 * 262144 + tailBits b * 4096 + tailBits c * 64 + tailBits d), rest)
        else none
      | _ => none
    else none

/-- The characters of at most `fuel` octets, if they are nothing but characters. -/
def decodeWithin : Nat → List UInt8 → Option (List Char)
  | 0, bs => if bs.isEmpty then some [] else none
  | fuel + 1, bs =>
    if bs.isEmpty then some []
    else match take bs with
      | none => none
      | some (c, rest) => (decodeWithin fuel rest).map (c :: ·)

def decode (bs : List UInt8) : Option (List Char) := decodeWithin bs.length bs

/-- The characters found among at most `fuel` octets. -/
def salvageWithin : Nat → List UInt8 → List Char
  | 0, _ => []
  | fuel + 1, bs =>
    match take bs with
    | some (c, rest) => c :: salvageWithin fuel rest
    | none => match bs with
      | [] => []
      | _ :: rest => salvageWithin fuel rest

/-- The text that a row of octets encodes, passing over octets that encode nothing. -/
def salvage (bs : List UInt8) : List Char := salvageWithin bs.length bs

end TypedSearch.Text.Utf8
