import TypedSearch.Annotation.Layout
import TypedSearch.Annotation.Making
import TypedSearch.Calendar.Pattern
import TypedSearch.Text.Printable

/-!
# Methods

What the methods of lists, tuples, dictionaries, sets, texts, octets and numbers make of arguments.
A method that would change its thing only answers: nothing else holds the thing.
-/

namespace TypedSearch.Declared

open Text

def takesNone {α : Type} (owner name : String) (n : Nat) : Except Fault α :=
  misuse (owner ++ "." ++ name ++ "() takes no arguments (" ++ toString n ++ " given)")

/-- Refuses a number of arguments of a method that takes one. -/
def takesOne {α : Type} (owner name : String) (n : Nat) : Except Fault α :=
  misuse (owner ++ "." ++ name ++ "() takes exactly one argument (" ++ toString n ++ " given)")

def nothing : Declared := .constant .null

/-! ## Lists and tuples -/

/-- The place of the first item that is like a thing. -/
def placeOf? (t : Declared) (ts : List Declared) : Option Nat := ts.findIdx? fun u ↦ alike u t

def tupleMethod (ts : List Declared) (name : String) (args : List Declared) :
    Except Fault Declared :=
  match name, args with
  | "count", [t] => .ok (.constant (.int (ts.countP fun u ↦ alike u t)))
  | "count", us => takesOne "tuple" name us.length
  | "index", [t] => match placeOf? t ts with
    | some i => .ok (.constant (.int i))
    | none => .error (.badValue "tuple.index(x): x not in tuple")
  | "index", [] => wrongCount name 1 3 0
  | name, _ => .error (.unsupported name)

def listMethod (ts : List Declared) (name : String) (args : List Declared) :
    Except Fault Declared :=
  match name, args with
  | "append", [_] => .ok nothing
  | "count", [t] => .ok (.constant (.int (ts.countP fun u ↦ alike u t)))
  | "extend", [t] => do
    let _ ← elements t
    return nothing
  | "remove", [t] =>
    if (placeOf? t ts).isSome then .ok nothing
    else .error (.badValue "list.remove(x): x not in list")
  | "append", us | "count", us | "extend", us | "remove", us => takesOne "list" name us.length
  | "copy", [] => .ok (rowOf .list ts)
  | "clear", [] | "reverse", [] => .ok nothing
  | "copy", us | "clear", us | "reverse", us => takesNone "list" name us.length
  | "index", [t] => match placeOf? t ts with
    | some i => .ok (.constant (.int i))
    | none => .error (.badValue (t.inspect ++ " is not in list"))
  | "index", [] => wrongCount name 1 3 0
  | "insert", [i, _] => do
    let _ ← wholeOf i
    return nothing
  | "insert", us => wrongCount name 2 2 us.length
  | "sort", [] => do
    let _ ← sortedRow ts
    return nothing
  | "sort", _ => misuse "sort() takes no positional arguments"
  | "pop", [] => popAt (-1)
  | "pop", [i] => do popAt (← wholeOf i)
  | "pop", us => wrongCount name 0 1 us.length
  | name, _ => .error (.unsupported name)
where
  /-- The item at a place, counted from the end if negative. -/
  popAt (i : Int) : Except Fault Declared :=
    if ts.isEmpty then .error (.foreign "IndexError" "pop from empty list")
    else match (index? ts.length i).bind fun k ↦ ts[k]? with
      | some t => .ok t
      | none => .error (.beyondEnd "pop")

/-! ## Dictionaries -/

def dictMethod (items : List Declared) (name : String) (args : List Declared) :
    Except Fault Declared :=
  let found (k : Declared) : Except Fault (Option Declared) := do
    k.checkKey
    return valueAt? k items
  match name, args with
  | "get", [k] | "setdefault", [k] => do return (← found k).getD nothing
  | "get", [k, v] | "setdefault", [k, v] => do return (← found k).getD v
  | "pop", [k] => do
    if items.isEmpty then .error (.unknownKey k.inspect)
    match ← found k with
    | some v => return v
    | none => .error (.unknownKey k.inspect)
  | "pop", [k, v] => if items.isEmpty then .ok v else do return (← found k).getD v
  | "get", us | "setdefault", us | "pop", us => wrongCount name 1 2 us.length
  | "keys", [] => .ok (.row (.view "dict_keys") (keysOf items))
  | "values", [] => .ok (.row (.view "dict_values") (valuesOf items))
  | "items", [] => .ok (.row (.view "dict_items") (pairsOf items))
  | "copy", [] => .ok (.row .dict items)
  | "clear", [] => .ok nothing
  | "popitem", [] => match (pairsOf items).getLast? with
    | some p => .ok p
    | none => .error (.unknownKey "'popitem(): dictionary is empty'")
  | "keys", us | "values", us | "items", us | "copy", us | "clear", us | "popitem", us =>
    takesNone "dict" name us.length
  | "update", [] => .ok nothing
  | "update", [t] => do
    let _ ← putAll items t
    return nothing
  | "update", us => wrongCount name 0 1 us.length
  | name, _ => .error (.unsupported name)

def fromKeys (args : List Declared) : Except Fault Declared :=
  let made (keys v : Declared) : Except Fault Declared := do
    let ks ← elements keys
    ks.forM checkKey
    return .row .dict ((distinct ks).flatMap fun k ↦ [k, v])
  match args with
  | [keys] => made keys nothing
  | [keys, v] => made keys v
  | us => wrongCount "fromkeys" 1 2 us.length

/-! ## Sets -/

def setMethod (form : RowForm) (ts : List Declared) (name : String) (args : List Declared) :
    Except Fault Declared :=
  let owner := if form == .frozenset then "frozenset" else "set"
  let truth (b : Bool) : Declared := .constant (.bool b)
  let folded (op : BinaryOp) : Except Fault Declared := do
    let us ← args.foldlM (fun made u ↦ do
      return (setItems? op made (distinct (← members u))).getD made) ts
    return .row form us
  match name, args with
  | "copy", [] => .ok (.row form ts)
  | "clear", [] => .ok nothing
  | "pop", [] => match ts with
    | t :: _ => .ok t
    | [] => .error (.unknownKey "'pop from an empty set'")
  | "copy", us | "clear", us | "pop", us => takesNone owner name us.length
  | "add", [t] => do
    t.checkKey
    return nothing
  | "discard", [t] => do
    t.asMember.checkKey
    return nothing
  | "remove", [t] => do
    t.asMember.checkKey
    if covers ts t then return nothing else .error (.unknownKey t.inspect)
  | "isdisjoint", [t] => do return truth (sift true ts (← members t)).isEmpty
  | "issubset", [t] => do return truth (sift false ts (← members t)).isEmpty
  | "issuperset", [t] => do return truth (sift false (← members t) ts).isEmpty
  | "symmetric_difference", [t] => do
    return .row form ((setItems? .xor ts (distinct (← members t))).getD ts)
  | "add", us | "discard", us | "remove", us | "isdisjoint", us | "issubset", us | "issuperset", us
  | "symmetric_difference", us => takesOne owner name us.length
  | "union", _ => folded .or
  | "intersection", _ => folded .and
  | "difference", _ => folded .subtract
  | "symmetric_difference_update", [t] => do
    let _ ← members t
    return nothing
  | "symmetric_difference_update", us => takesOne owner name us.length
  | "update", us | "difference_update", us | "intersection_update", us => do
    let _ ← us.mapM members
    return nothing
  | name, _ => .error (.unsupported name)
where
  /-- The elements of a thing, which can all stand in a set. -/
  members (t : Declared) : Except Fault (List Declared) := do
    let ts ← elements t
    ts.forM checkKey
    return ts

/-! ## Numbers and octets -/

def wholeMethod (n : Int) (name : String) (args : List Declared) : Except Fault Declared :=
  let int (n : Int) : Declared := .constant (.int n)
  match name, args with
  | "bit_length", [] =>
    .ok (int (Nat.toDigits 2 n.natAbs).length |> fun t ↦ if n = 0 then int 0 else t)
  | "bit_count", [] => .ok (int ((Nat.toDigits 2 n.natAbs).count '1'))
  | "conjugate", [] => .ok (int n)
  | "as_integer_ratio", [] => .ok (.constant (.tuple [.int n, .int 1]))
  | "bit_length", us | "bit_count", us | "conjugate", us | "as_integer_ratio", us =>
    takesNone "int" name us.length
  | name, _ => .error (.unsupported name)

def binaryMethod (x : Binary64) (name : String) (args : List Declared) : Except Fault Declared :=
  match name, args, Value.rational? (.float x) with
  | "conjugate", [], _ => .ok (.constant (.float x))
  | "is_integer", [], some q => .ok (.constant (.bool (q.den == 1)))
  | "is_integer", [], none => .ok (.constant (.bool false))
  | "as_integer_ratio", [], some q => .ok (.constant (.tuple [.int q.num, .int q.den]))
  | "hex", [], _ => .ok (ofText (.ofList x.writeHex))
  | "conjugate", us, _ | "is_integer", us, _ | "hex", us, _ | "as_integer_ratio", us@(_ :: _), _ =>
    takesNone "float" name us.length
  | name, _, _ => .error (.unsupported name)

def decimalMethod (d : Decimal) (name : String) (args : List Declared) : Except Fault Declared :=
  let truth (b : Bool) : Except Fault Declared := .ok (.constant (.bool b))
  match name, args, d with
  | "is_nan", [], .nan .. => truth true
  | "is_nan", [], _ => truth false
  | "is_infinite", [], .infinite _ => truth true
  | "is_infinite", [], _ => truth false
  | "is_finite", [], .finite .. => truth true
  | "is_finite", [], _ => truth false
  | "is_zero", [], d => truth d.isZero
  | "is_signed", [], .finite s .. | "is_signed", [], .infinite s | "is_signed", [], .nan s .. =>
    truth s
  | "normalize", [], .finite s c e =>
    let (c, e) := Decimal.trimmed Decimal.maxAdjusted (Decimal.size c) c e
    .ok (.constant (.decimal (if c = 0 then .finite s 0 0 else .finite s c e)))
  | "copy_abs", [], .finite _ c e => .ok (.constant (.decimal (.finite false c e)))
  | "copy_negate", [], .finite s c e => .ok (.constant (.decimal (.finite (!s) c e)))
  | "adjusted", [], .finite _ c e => .ok (.constant (.int (Decimal.adjusted c e)))
  | "conjugate", [], d | "canonical", [], d => .ok (.constant (.decimal d))
  | "to_integral_value", [], .finite s c e =>
    if 0 ≤ e then .ok (.constant (.decimal (.finite s c e)))
    else .ok (.constant (.decimal (.finite s (Binary64.roundDiv c (tenTo e.natAbs)) 0)))
  | "quantize", [.constant v], .finite s c e => match v.decimal? with
    | some (.finite _ _ f) =>
      let n := if f ≤ e then c * tenTo (e - f).toNat else Binary64.roundDiv c (tenTo (f - e).toNat)
      if 28 < Decimal.size n then .error .undefinedOperation
      else .ok (.constant (.decimal (.finite s n f)))
    | _ => .error (.unsupported name)
  | "as_integer_ratio", [], .finite .. => match Value.rational? (.decimal d) with
    | some q => .ok (.constant (.tuple [.int q.num, .int q.den]))
    | none => .error (.unsupported name)
  | name, _, _ => .error (.unsupported name)

def octetMethod (bs : List UInt8) (name : String) (args : List Declared) : Except Fault Declared :=
  match name, args with
  | "decode", [] => decoded bs "utf-8"
  | "decode", [.constant (.text s)] | "decode", [.constant (.text s), .constant (.text _)] =>
    decoded bs s
  | "decode", u :: _ =>
    misuse ("decode() argument 'encoding' must be str, not " ++ u.argumentFamily)
  | "hex", [] => .ok (.constant (.text (.ofList (bs.flatMap fun b ↦
      [Nat.digitChar (b.toNat / 16), Nat.digitChar (b.toNat % 16)]))))
  | name, _ => .error (.unsupported name)

/-! ## Texts -/

def firstPlace? (part cs : List Char) : Option Nat := (suffixes cs).findIdx? part.isPrefixOf

def lastPlace? (part cs : List Char) : Option Nat :=
  let places := (suffixes cs).zipIdx.filter fun s ↦ part.isPrefixOf s.1
  places.getLast?.map (·.2)

/-- How often a text occurs in another one side by side. -/
def occurrences (part : List Char) : Nat → List Char → Nat
  | 0, _ => 0
  | fuel + 1, cs =>
    if part.isPrefixOf cs then 1 + occurrences part fuel (cs.drop part.length)
    else match cs with
      | [] => 0
      | _ :: cs => occurrences part fuel cs

/-- The pieces of a text between blanks, of which all but the first `most` stay together. -/
def wordsAtMost : Nat → List Char → List (List Char)
  | 0, cs =>
    let rest := stripEnd isBlank (cs.dropWhile isBlank)
    if rest.isEmpty then [] else [cs.dropWhile isBlank]
  | most + 1, cs =>
    let cs := cs.dropWhile isBlank
    if cs.isEmpty then []
    else cs.takeWhile (!isBlank ·) :: wordsAtMost most (cs.dropWhile (!isBlank ·))

/-- The pieces of a text between copies of another one, which is not empty, of which all but the
first `most` stay together. -/
def piecesAtMost (part : List Char) : Nat → List Char → List (List Char)
  | 0, cs => [cs]
  | most + 1, cs => match firstPlace? part cs with
    | some i => cs.take i :: piecesAtMost part most (cs.drop (i + part.length))
    | none => [cs]

/-- A text filled up with a character, by how much of the lack goes before it. -/
def filled (cs : List Char) (width : Int) (fill : Char) (before : Nat → Nat) : String :=
  let lack := width.toNat - cs.length
  .ofList (List.replicate (before lack) fill ++ cs ++ List.replicate (lack - before lack) fill)

/-- The pieces of a text between copies of another one from its end on, of which all but the last
`most` stay together; the last first. -/
def piecesFromEnd (part : List Char) : Nat → List Char → List (List Char)
  | 0, cs => [cs]
  | most + 1, cs => match lastPlace? part cs with
    | some i => cs.drop (i + part.length) :: piecesFromEnd part most (cs.take i)
    | none => [cs]

/-- The pieces of a text between blanks from its end on, of which all but the last `most` stay
together; the last first. -/
def wordsFromEnd (most : Nat) (cs : List Char) : List (List Char) :=
  (wordsAtMost most cs.reverse).map List.reverse

/-- A text with the first `most` copies of a part replaced; an empty part is found before each
character and at the end. -/
def replaced (part by_ : List Char) : Nat → List Char → List Char
  | 0, cs => cs
  | most + 1, cs =>
    if part.isEmpty then match cs with
      | [] => by_
      | c :: cs => by_ ++ c :: replaced part by_ most cs
    else match firstPlace? part cs with
      | some i => cs.take i ++ by_ ++ replaced part by_ most (cs.drop (i + part.length))
      | none => cs

def linesOf (keepsEnds : Bool) (line : List Char) : List Char → List (List Char)
  | [] => if line.isEmpty then [] else [line.reverse]
  | '\r' :: '\n' :: cs =>
    (if keepsEnds then '\n' :: '\r' :: line else line).reverse :: linesOf keepsEnds [] cs
  | c :: cs =>
    if c == '\n' || c == '\r' || c == '\x0b' || c == '\x0c' || (28 ≤ c.toNat && c.toNat ≤ 30) ||
        c.toNat == 0x85 || c.toNat == 0x2028 || c.toNat == 0x2029 then
      (if keepsEnds then c :: line else line).reverse :: linesOf keepsEnds [] cs
    else linesOf keepsEnds (c :: line) cs

/-- A text with blanks in place of tabs, up to the next multiple of `size` columns. -/
def expanded (size column : Nat) : List Char → List Char
  | [] => []
  | c :: cs =>
    if c == '\t' then
      let n := if size = 0 then 0 else size - column % size
      List.replicate n ' ' ++ expanded size (column + n) cs
    else c :: expanded size (if c == '\n' || c == '\r' then 0 else column + 1) cs

/-- Does each word of a text begin in upper case and go on in lower case, and is there one? -/
def isTitled (cs : List Char) : Bool := cs.any Char.isAlpha && TextMethod.titled false cs == cs

def textsOf (ts : List Declared) : Except Fault (List String) :=
  ts.zipIdx.mapM fun p ↦ match p.1 with
    | .constant (.text s) | .constant (.code _ s _) => .ok s
    | t =>
      misuse ("sequence item " ++ toString p.2 ++ ": expected str instance, " ++ t.family ++
        " found")

def fillOf (t : Declared) : Except Fault Char :=
  match t with
  | .constant (.text s) => match s.toList with
    | [c] => .ok c
    | _ => misuse "The fill character must be exactly one character long"
  | t => misuse ("The fill character must be a unicode character, not " ++ t.family)

/-- A section of a text from one place to another, and where it begins. -/
def stretchOf (cs : List Char) (ends : List Declared) : Except Fault (List Char × Nat) := do
  let nothing : Declared := .constant .null
  let first ← endOf ((ends[0]?).getD nothing)
  let last ← endOf ((ends[1]?).getD nothing)
  let start := clampEnd cs.length 0 cs.length (first.getD 0)
  let stop := clampEnd cs.length 0 cs.length (last.getD cs.length)
  return ((cs.take stop.toNat).drop start.toNat, start.toNat)

/-- Does a text begin, or end, with one of the texts that a thing stands for? -/
def beginsWith (name : String) (matching : List Char → Bool) (t : Declared) : Except Fault Bool :=
  match t, t.series? with
  | .constant (.text s), _ => .ok (matching s.toList)
  | _, some (.tuple, ts) => do
    let found ← ts.mapM fun u ↦ match u with
      | .constant (.text s) => .ok (matching s.toList)
      | u => misuse ("tuple for " ++ name ++ " must only contain str, not " ++ u.family)
    return found.any id
  | t, _ => misuse (name ++ " first arg must be str or a tuple of str, not " ++ t.family)

/-- What the methods that look for one text in another one make of arguments. -/
def searchMethod (cs : List Char) (name : String) (args : List Declared) : Except Fault Declared :=
  let int (n : Int) : Declared := .constant (.int n)
  match args with
  | .constant (.text p) :: ends => do
    if 2 < ends.length then .error (.unsupported name)
    let (part, start) ← stretchOf cs ends
    let place? := if name == "find" || name == "index" then firstPlace? p.toList part
      else lastPlace? p.toList part
    if name == "count" then
      return int (if p.isEmpty then part.length + 1
        else occurrences p.toList (part.length + 1) part)
    else match place? with
      | some i => return int (start + i)
      | none =>
        if name == "index" || name == "rindex" then .error (.badValue "substring not found")
        else return int (-1)
  | t :: _ => misuse ("must be str, not " ++ t.family)
  | [] => misuse (name ++ "() takes at least 1 argument (0 given)")

/-- The three parts of a text: before, at, and behind a place where another one stands. -/
def partsAround (cs part : List Char) (place? : Option Nat) (isFirst : Bool) : Declared :=
  let text (cs : List Char) : Declared := .constant (.text (.ofList cs))
  rowOf .tuple <| match place? with
    | some i => [text (cs.take i), text part, text (cs.drop (i + part.length))]
    | none => if isFirst then [text cs, text [], text []] else [text [], text [], text cs]

def splitMethod (cs : List Char) (name : String) (args : List Declared) :
    Except Fault Declared := do
  let separator := (args[0]?).getD nothing
  let most ← wholeOf ((args[1]?).getD (.constant (.int (-1))))
  let most := if most < 0 then cs.length + 1 else most.toNat
  let list (pieces : List (List Char)) : Except Fault Declared :=
    .ok (rowOf .list (pieces.map fun cs ↦ .constant (.text (.ofList cs))))
  let isFromEnd := name == "rsplit"
  match separator with
  | .constant .null =>
    list (if isFromEnd then (wordsFromEnd most cs).reverse else wordsAtMost most cs)
  | .constant (.text p) =>
    if p.isEmpty then .error (.badValue "empty separator")
    else list (if isFromEnd then (piecesFromEnd p.toList most cs).reverse
      else piecesAtMost p.toList most cs)
  | t => misuse ("must be str or None, not " ++ t.family)

/-- What the methods that put a text into columns make of arguments. -/
def columnMethod (cs : List Char) (name : String) (args : List Declared) :
    Except Fault Declared := do
  let made (width : Declared) (fill : Char) : Except Fault Declared := do
    let n ← wholeOf width
    let before (lack : Nat) : Nat :=
      if name == "ljust" then 0 else if name == "rjust" then lack
        else lack / 2 + lack % 2 * (n.toNat % 2)
    return .constant (.text (filled cs n fill before))
  match args with
  | [width] => made width ' '
  | [width, fill] => made width (← fillOf fill)
  | us => wrongCount name 1 2 us.length

/-- What the methods that ask what characters a text has make of it, by whether one of them may be
asked of a text beyond ASCII. -/
def askMethod? (cs : List Char) (name : String) : Option (Except Fault Declared) :=
  let isPlain := cs.all (·.toNat < 128)
  let answer (b : Bool) : Option (Except Fault Declared) := some (.ok (.constant (.bool b)))
  let ascii (b : Bool) : Option (Except Fault Declared) :=
    if isPlain then answer b else some (.error (.unsupported name))
  let every (p : Char → Bool) : Bool := !cs.isEmpty && cs.all p
  match name with
  | "isdigit" | "isdecimal" | "isnumeric" => ascii (every Char.isDigit)
  | "isalpha" => ascii (every Char.isAlpha)
  | "isalnum" => ascii (every Char.isAlphanum)
  | "isspace" => answer (every isBlank)
  | "isascii" => answer isPlain
  | "isprintable" => answer (cs.all isPrintable)
  | "isidentifier" => ascii (match cs with
    | [] => false
    | c :: cs => (c.isAlpha || c == '_') && cs.all fun d ↦ d.isAlphanum || d == '_')
  | "isupper" => ascii (cs.any Char.isUpper && !cs.any Char.isLower)
  | "islower" => ascii (cs.any Char.isLower && !cs.any Char.isUpper)
  | "istitle" => ascii (isTitled cs)
  | _ => none

def textMethod (s name : String) (args : List Declared) : Except Fault Declared :=
  let cs := s.toList
  let text (cs : List Char) : Declared := .constant (.text (.ofList cs))
  let stripped (p : Char → Bool) : Declared := text <|
    if name == "lstrip" then cs.dropWhile p else if name == "rstrip" then stripEnd p cs
      else strip p cs
  match TextMethod.all.lookup name, askMethod? cs name, name, args with
  | some m, _, _, [] => match m.applied? s with
    | some t => .ok (.constant (.text t))
    | none => .error (.unsupported name)
  | some _, _, _, [.constant (.text p)] =>
    if name.endsWith "strip" then .ok (stripped p.toList.contains) else takesNone "str" name 1
  | some _, _, _, [.constant .null] =>
    if name.endsWith "strip" then .ok (stripped isBlank) else takesNone "str" name 1
  | some _, _, _, us =>
    if !name.endsWith "strip" then takesNone "str" name us.length
    else if us.length == 1 then misuse (name ++ " arg must be None or str")
    else wrongCount name 0 1 us.length
  | none, some x, _, [] => x
  | none, some _, _, us => takesNone "str" name us.length
  | none, none, "find", us | none, none, "rfind", us | none, none, "index", us
  | none, none, "rindex", us
  | none, none, "count", us => searchMethod cs name us
  | none, none, "split", us | none, none, "rsplit", us => splitMethod cs name us
  | none, none, "ljust", us | none, none, "rjust", us | none, none, "center", us =>
    columnMethod cs name us
  | _, _, "encode", [] => encoded s "utf-8"
  | _, _, "encode", [.constant (.text e)]
  | _, _, "encode", [.constant (.text e), .constant (.text _)] =>
    encoded s e
  | _, _, "encode", u :: _ =>
    misuse ("encode() argument 'encoding' must be str, not " ++ u.argumentFamily)
  | _, _, "replace", [.constant (.text a), .constant (.text b)] =>
    .ok (text (replaced a.toList b.toList (cs.length + 1) cs))
  | _, _, "replace", [.constant (.text a), .constant (.text b), n] => do
    let n ← wholeOf n
    return text (replaced a.toList b.toList (if n < 0 then cs.length + 1 else n.toNat) cs)
  | _, _, "replace", [.constant (.text _), t] =>
    misuse ("replace() argument 2 must be str, not " ++ t.argumentFamily)
  | _, _, "replace", t :: _ :: _ =>
    misuse ("replace() argument 1 must be str, not " ++ t.argumentFamily)
  | _, _, "replace", us => wrongCount name 2 3 us.length
  | _, _, "startswith", t :: ends => do
    let (part, _) ← stretchOf cs ends
    return .constant (.bool (← beginsWith name (fun p ↦ p.isPrefixOf part) t))
  | _, _, "endswith", t :: ends => do
    let (part, _) ← stretchOf cs ends
    return .constant (.bool (← beginsWith name (fun p ↦ p.isSuffixOf part) t))
  | _, _, "startswith", [] | _, _, "endswith", [] =>
    misuse (name ++ "() takes at least 1 argument (0 given)")
  | _, _, "removeprefix", [.constant (.text p)] =>
    .ok (text (if p.toList.isPrefixOf cs then cs.drop p.length else cs))
  | _, _, "removesuffix", [.constant (.text p)] =>
    .ok (text (if p.toList.isSuffixOf cs then cs.take (cs.length - p.length) else cs))
  | _, _, "removeprefix", [t] | _, _, "removesuffix", [t] =>
    misuse (name ++ "() argument must be str, not " ++ t.argumentFamily)
  | _, _, "join", [t] =>
    if t.elements?.isNone then misuse "can only join an iterable"
    else do return .constant (.text (s.intercalate (← textsOf (← elements t))))
  | _, _, "removeprefix", us | _, _, "removesuffix", us | _, _, "join", us | _, _, "partition", us
  | _, _, "rpartition", us | _, _, "zfill", us => match name, us with
    | "zfill", [t] => do
      let n ← wholeOf t
      match cs with
      | '+' :: ds | '-' :: ds => return text (cs.take 1 ++ (filled ds (n - 1) '0' id).toList)
      | cs => return .constant (.text (filled cs n '0' id))
    | _, [.constant (.text p)] =>
      if p.isEmpty then .error (.badValue "empty separator")
      else
        let isFirst := name == "partition"
        let place? := if isFirst then firstPlace? p.toList cs else lastPlace? p.toList cs
        .ok (partsAround cs p.toList place? isFirst)
    | _, [t] => misuse ("must be str, not " ++ t.family)
    | _, us => takesOne "str" name us.length
  | _, _, "splitlines", [] => .ok (rowOf .list ((linesOf false [] cs).map text))
  | _, _, "splitlines", [t] => .ok (rowOf .list ((linesOf t.isTrue [] cs).map text))
  | _, _, "expandtabs", [] => .ok (text (expanded 8 0 cs))
  | _, _, "expandtabs", [t] => do return text (expanded (← wholeOf t).toNat 0 cs)
  | _, _, "translate", [.row .dict table] => do
    let pieces ← cs.mapM fun c ↦ match valueAt? (.constant (.int c.toNat)) table with
      | none => .ok [c]
      | some (.constant .null) => .ok []
      | some (.constant (.text t)) => .ok t.toList
      | some t => match t.place? with
        | some n =>
          if 0 ≤ n && n.toNat.isValidChar then .ok [Char.ofNat n.toNat]
            else .error (.unsupported name)
        | none => misuse "character mapping must return integer, None or str"
    return text pieces.flatten
  | _, _, name, _ => .error (.unsupported name)

/-! ## Dates -/

/-- What a method of a date makes of arguments; `m` is the first moment of it. -/
def dateMethod (m : Moment) (name : String) (args : List Declared) : Except Fault Declared :=
  let d := m.date
  let int (n : Nat) : Declared := .constant (.int n)
  match name, args with
  | "weekday", [] => .ok (int d.weekday)
  | "isoweekday", [] => .ok (int (d.weekday + 1))
  | "toordinal", [] => .ok (int d.ordinal)
  | "isoformat", [] => .ok (ofText (.ofList d.write))
  | "strftime", [.constant (.text pattern)] => match m.layOut? pattern.toList with
    | some cs => .ok (ofText (.ofList cs))
    | none => .error (.unsupported name)
  | "replace", us => do
    let given ← us.mapM wholeOf
    match ← momentOf (given ++ [(d.year : Int), d.month, d.day].drop given.length) with
    | .moment n => return .constant (.date n.date)
    | v => return .constant v
  | name, _ => .error (.unsupported name)

def momentMethod (m : Moment) (name : String) (args : List Declared) : Except Fault Declared :=
  match name, args with
  | "date", [] => .ok (.constant (.date m.date))
  | "isoformat", [] => .ok (ofText (.ofList (m.write.map fun c ↦ if c == ' ' then 'T' else c)))
  | "isoformat", [.constant (.text s)] =>
    if s.length = 1 then
      .ok (ofText (.ofList (m.write.flatMap fun c ↦ if c == ' ' then s.toList else [c])))
    else misuse "isoformat() argument 1 must be a unicode character, not str"
  | "replace", us => do
    let given ← us.mapM wholeOf
    let own : List Int := [m.date.year, m.date.month, m.date.day, m.time.hour, m.time.minute,
      m.time.second, m.time.micro]
    match m.offset with
    | none => return .constant (← momentOf (given ++ own.drop given.length))
    | some _ => .error (.unsupported name)
  | name, us => dateMethod m name us

/-! ## All of them -/

/-- What a method of a thing other than a text makes of arguments. -/
def callMethod (t : Declared) (name : String) (args : List Declared) : Except Fault Declared :=
  match t.series?, t with
  | some (.list, ts), _ => listMethod ts name args
  | some (_, ts), _ => tupleMethod ts name args
  | none, .row .dict ts => dictMethod ts name args
  | none, .row .set ts => setMethod .set ts name args
  | none, .row .frozenset ts => setMethod .frozenset ts name args
  | none, .constant (.bytes bs) => octetMethod bs name args
  | none, .constant (.float x) => binaryMethod x name args
  | none, .constant (.int n) => wholeMethod n name args
  | none, .constant (.bool b) => wholeMethod (if b then 1 else 0) name args
  | none, .constant (.date d) => dateMethod ⟨d, .ofMicros 0, none⟩ name args
  | none, .constant (.moment m) => momentMethod m name args
  | none, .constant (.decimal d) => decimalMethod d name args
  | none, _ => .error (.unsupported name)

end TypedSearch.Declared
