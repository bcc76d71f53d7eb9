import TypedSearch.Annotation.Attribute
import TypedSearch.Annotation.Walk
import TypedSearch.Conversion
import TypedSearch.Text.Utf8

/-!
# What classes make

What classes make of arguments that are given in order.
-/

namespace TypedSearch.Declared

open Text

/-! ## Numbers -/

def truncated (q : Rat) : Int := q.num.tdiv q.den

def octetText (bs : List UInt8) : String := .ofList (bs.map fun b ↦ Char.ofNat b.toNat)

def toWhole (t : Declared) : Except Fault Value :=
  match t with
  | .constant (.text s) | .constant (.code _ s _) => match Whole.readPadded s with
    | some n => .ok (.int n)
    | none => .error (.badValue ("invalid literal for int() with base 10: " ++ quoted s))
  | .constant (.bytes bs) => match Whole.readPadded (octetText bs) with
    | some n => .ok (.int n)
    | none => .error (.badValue ("invalid literal for int() with base 10: " ++ quotedBytes bs))
  | .constant (.float (.infinite _)) =>
    .error (.overflow "cannot convert float infinity to integer")
  | .constant (.float .nan) => .error (.badValue "cannot convert float NaN to integer")
  | .constant (.decimal (.infinite _)) => .error (.overflow "cannot convert Infinity to integer")
  | .constant (.decimal (.nan ..)) => .error (.badValue "cannot convert NaN to integer")
  | t =>
    let rational? : Option Rat := match t with
      | .constant v => v.rational?
      | _ => none
    match rational? with
    | some q => .ok (.int (truncated q))
    | none =>
      misuse ("int() argument must be a string, a bytes-like object or a real number, not '" ++
        t.family ++ "'")

def toBinary (t : Declared) : Except Fault Value :=
  let refuse : Except Fault Value :=
    misuse ("float() argument must be a string or a real number, not '" ++ t.family ++ "'")
  match t with
  | .constant (.text s) | .constant (.code _ s _) => match Binary64.readPadded s with
    | some x => .ok (.float x)
    | none => .error (.badValue ("could not convert string to float: " ++ quoted s))
  | .constant (.bytes bs) => match Binary64.readPadded (octetText bs) with
    | some x => .ok (.float x)
    | none => .error (.badValue ("could not convert string to float: " ++ quotedBytes bs))
  | .constant v => match v.toBinary? with
    | some x => x.map .float
    | none => refuse
  | _ => refuse

def toComplex (t : Declared) : Except Fault Value :=
  match t with
  | .constant (.text s) => match Complex.read s.toList with
    | some z => .ok (.complex z)
    | none => .error <| .badValue <|
      if (Numeral.ungroup (s.toList.map fun c ↦ if (digit? c).isSome then '0' else c)).isSome then
        "complex() arg is a malformed string"
      else "could not convert string to complex: " ++ quoted s
  | t => match numberOf? t with
    | some z => z.map fun z ↦ .complex z.1
    | none =>
      misuse ("complex() first argument must be a string or a number, not '" ++ t.family ++ "'")
where
  /-- The complex number that a number extends to, and whether it is one already. -/
  numberOf? : Declared → Option (Except Fault (Complex × Bool))
    | .constant (.complex z) => some (.ok (z, true))
    | .constant v => v.toBinary?.map fun x ↦ x.map fun x ↦ (⟨x, .zero false⟩, false)
    | _ => none

/-- The complex number with two numbers as its parts; complex parts are taken together. -/
def toComplexOf (t u : Declared) : Except Fault Value :=
  match t, toComplex.numberOf? t, u, toComplex.numberOf? u with
  | .constant (.text _), _, _, _ => misuse "complex() can't take second arg if first is a string"
  | _, _, .constant (.text _), _ => misuse "complex() second arg can't be a string"
  | _, some x, _, some y => do
    let (x, isWhole) ← x
    let (y, isOther) ← y
    return .complex ⟨if isOther then x.re.sub y.im else x.re, if isWhole then y.re.add x.im
      else y.re⟩
  | t, none, _, _ =>
    misuse ("complex() first argument must be a string or a number, not '" ++ t.family ++ "'")
  | _, _, u, none => misuse ("complex() second argument must be a number, not '" ++ u.family ++ "'")

/-- The decimal number of a sign, digits and an exponent. -/
def decimalOfParts (sign digits exponent : Declared) : Except Fault Value :=
  match sign.place?, digits.series?, exponent.place? with
  | some n, some (.tuple, ds), some e =>
    if n != 0 && n != 1 then .error (.badValue "sign must be an integer with the value 0 or 1")
    else match ds.mapM fun d ↦ d.place?.bind fun k ↦ if 0 ≤ k && k ≤ 9 then some k.toNat
      else none with
      | some ds => .ok (.decimal (.finite (n == 1) (ofDigits ds) e))
      | none => .error (.badValue "coefficient must be a tuple of digits")
  | some _, some (.tuple, _), none => .error (.unsupported "Decimal")
  | some _, _, _ => .error (.badValue "coefficient must be a tuple of digits")
  | none, _, _ => .error (.badValue "sign must be an integer with the value 0 or 1")

def toDecimal (t : Declared) : Except Fault Value :=
  match t with
  | .constant (.text s) | .constant (.code _ s _) => match Decimal.read (trim s.toList) with
    | some d => .ok (.decimal d)
    | none => .error .badDecimal
  | .constant (.float x) => .ok (.decimal <| match x with
    | .finite s m e => .ofBinary s m e
    | .infinite s => .infinite s
    | .nan => .nan false false 0)
  | t => match t.series?, t with
    | some (_, [sign, digits, exponent]), _ => decimalOfParts sign digits exponent
    | some _, _ => .error (.badValue "argument must be a sequence of length 3")
    | none, .constant v => match v.decimal? with
      | some d => .ok (.decimal d)
      | none => misuse ("conversion from " ++ v.family ++ " to Decimal is not supported")
    | none, t => misuse ("conversion from " ++ t.family ++ " to Decimal is not supported")

/-! ## Bases -/

def digitIn? (base : Nat) (c : Char) : Option Nat :=
  let n := if '0' ≤ c && c ≤ '9' then c.toNat - 48
    else if 'a' ≤ c && c ≤ 'z' then c.toNat - 87
    else if 'A' ≤ c && c ≤ 'Z' then c.toNat - 55
    else 36
  if n < base then some n else none

/-- The base that a text begins with the mark of, and the text behind the mark. -/
def takeBase : List Char → Option (Nat × List Char)
  | '0' :: c :: cs =>
    if c == 'x' || c == 'X' then some (16, cs)
    else if c == 'o' || c == 'O' then some (8, cs)
    else if c == 'b' || c == 'B' then some (2, cs)
    else none
  | _ => none

/-- The whole number that digits in a base are, with single underscores between them. -/
def wholeIn? (base : Nat) (cs : List Char) : Option Nat := do
  let groups := (String.ofList cs).splitOn "_"
  if groups.any String.isEmpty then none
  else
    let ds ← (groups.flatMap String.toList).mapM (digitIn? base)
    return ds.foldl (fun n d ↦ base * n + d) 0

/-- The whole number that a text is in a base; in base zero the text tells its base. -/
def readIn? (base : Nat) (s : String) : Option Int := do
  let (isNegative, cs) := Numeral.takeSign (Numeral.unpad s.toList)
  let n ← match takeBase cs with
    | some (b, ds) =>
      if base = 0 || base = b then wholeIn? b (if ds.head? == some '_' then ds.drop 1 else ds)
      else wholeIn? base cs
    | none =>
      if base != 0 then wholeIn? base cs
      else if cs.head? == some '0' && cs.any (fun c ↦ c != '0' && c != '_') then none
      else wholeIn? 10 cs
  return Numeral.signed isNegative n

/-- The whole number that a text is made into in a base. -/
def toWholeIn (t inBase : Declared) : Except Fault Value := do
  let b ← wholeOf inBase
  if b != 0 && (b < 2 || 36 < b) then .error (.badValue "int() base must be >= 2 and <= 36, or 0")
  else
    let read (s shown : String) : Except Fault Value := match readIn? b.toNat s with
      | some n => .ok (.int n)
      | none => .error (.badValue
          ("invalid literal for int() with base " ++ toString b ++ ": " ++ shown))
    match t with
    | .constant (.text s) | .constant (.code _ s _) => read s (quoted s)
    | .constant (.bytes bs) => read (octetText bs) (quotedBytes bs)
    | _ => misuse "int() can't convert non-string with explicit base"

/-- The text of a whole number in a base that is a power of two, with the mark of the base. -/
def basedText (mark : Char) (base : Nat) (n : Int) : String :=
  .ofList ((if n < 0 then ['-'] else []) ++ '0' :: mark :: Nat.toDigits base n.natAbs)

/-! ## Moments -/

/-- The moment of a row of whole numbers from the year on. -/
def momentOf (parts : List Int) : Except Fault Value :=
  let part (i : Nat) (least : Int) : Int := parts[i]?.getD least
  let year := part 0 1
  let refuse (message : String) : Except Fault Value := .error (.badValue message)
  if year < 1 || 9999 < year then
    refuse ("year " ++ .ofList (Whole.write year) ++ " is out of range")
  else if part 1 1 < 1 || 12 < part 1 1 then refuse "month must be in 1..12"
  else match Date.of? year.toNat (part 1 1).toNat (part 2 1).toNat with
    | none => refuse "day is out of range for month"
    | some d =>
      if part 3 0 < 0 || 23 < part 3 0 then refuse "hour must be in 0..23"
      else if part 4 0 < 0 || 59 < part 4 0 then refuse "minute must be in 0..59"
      else if part 5 0 < 0 || 59 < part 5 0 then refuse "second must be in 0..59"
      else match Time.of? (part 3 0).toNat (part 4 0).toNat (part 5 0).toNat (part 6 0).toNat with
        | some t =>
          if part 6 0 < 0 then refuse "microsecond must be in 0..999999"
            else .ok (.moment ⟨d, t, none⟩)
        | none => refuse "microsecond must be in 0..999999"

def toMoment (args : List Declared) : Except Fault Value := do
  if 9 ≤ args.length then
    misuse ("function takes at most 8 positional arguments (" ++ toString args.length ++ " given)")
  match ← args.mapM wholeOf with
  | [] => misuse "function missing required argument 'year' (pos 1)"
  | [_] => misuse "function missing required argument 'month' (pos 2)"
  | [_, _] => misuse "function missing required argument 'day' (pos 3)"
  | parts => if parts.length ≤ 7 then momentOf parts else .error (.unsupported "datetime")

def toDate (args : List Declared) : Except Fault Value := do
  if 4 ≤ args.length then
    misuse ("function takes at most 3 arguments (" ++ toString args.length ++ " given)")
  match ← args.mapM wholeOf with
  | [] => misuse "function missing required argument 'year' (pos 1)"
  | [_] => misuse "function missing required argument 'month' (pos 2)"
  | [_, _] => misuse "function missing required argument 'day' (pos 3)"
  | parts => match ← momentOf parts with
    | .moment m => return .date m.date
    | v => return v

/-! ## Classes -/

def atMostOne {α : Type} (name : String) (n : Nat) : Except Fault α :=
  misuse (name ++ " expected at most 1 argument, got " ++ toString n)

/-- The names that octets are read as ASCII or UTF-8 under. -/
def textEncodings : List (String × Bool) := [
  ("ascii", true), ("us-ascii", true), ("ASCII", true), ("utf-8", false), ("utf8", false),
  ("UTF-8", false), ("utf_8", false), ("UTF8", false)]

def decoded (bs : List UInt8) (encoding : String) : Except Fault Declared :=
  match textEncodings.lookup encoding with
  | none => .error (.unsupported "decode")
  | some isAscii =>
    if isAscii && bs.any (128 ≤ ·) then .error (.unsupported "decode")
    else match Utf8.decode bs with
      | some cs => .ok (ofText (.ofList cs))
      | none => .error (.unsupported "decode")

def encoded (s encoding : String) : Except Fault Declared :=
  match textEncodings.lookup encoding with
  | none => .error (.unsupported "encode")
  | some isAscii =>
    if isAscii && s.toList.any fun c ↦ 128 ≤ c.toNat then .error (.unsupported "encode")
    else .ok (.constant (.bytes s.toUTF8.toList))

/-- The text that a thing is made into, when its encoding is given. -/
def toTextIn (t encoding : Declared) : Except Fault Declared :=
  match t, encoding with
  | .constant (.bytes bs), .constant (.text e) => decoded bs e
  | .constant (.text _), .constant (.text _) => misuse "decoding str is not supported"
  | t, .constant (.text _) => misuse
      ("decoding to str: need a bytes-like object, " ++ t.family ++ " found")
  | _, u => misuse ("str() argument 'encoding' must be str, not " ++ u.argumentFamily)

def toOctets (t : Declared) : Except Fault Declared :=
  match t, t.place? with
  | .constant (.bytes bs), _ => .ok (.constant (.bytes bs))
  | .constant (.text _), _ => misuse "string argument without an encoding"
  | _, some n =>
    if n < 0 then .error (.badValue "negative count")
    else if 65536 < n then .error (.unsupported "bytes")
    else .ok (.constant (.bytes (List.replicate n.toNat 0)))
  | t, none => match t.elements? with
    | none => misuse ("cannot convert '" ++ t.family ++ "' object to bytes")
    | some _ => do
      let ns ← (← elements t).mapM wholeOf
      if ns.any fun n ↦ n < 0 || 256 ≤ n then .error (.badValue "bytes must be in range(0, 256)")
      else return .constant (.bytes (ns.map fun n ↦ .ofNat n.toNat))

/-- What a class of single values makes of arguments. -/
def callBase (b : Base) (args : List Declared) : Except Fault Declared :=
  let value (x : Except Fault Value) : Except Fault Declared := x.map .constant
  match b, args with
  | .int, [] => .ok (.constant (.int 0))
  | .int, [t] => value (toWhole t)
  | .int, [t, b] => value (toWholeIn t b)
  | .int, ts => misuse ("int() takes at most 2 arguments (" ++ toString ts.length ++ " given)")
  | .text, [] => .ok (ofText "")
  | .text, [t] => t.display.map ofText
  | .text, [t, encoding] | .text, [t, encoding, .constant (.text _)] => toTextIn t encoding
  | .text, [_, encoding, errors] => match encoding with
    | .constant (.text _) =>
      misuse ("str() argument 'errors' must be str, not " ++ errors.argumentFamily)
    | u => misuse ("str() argument 'encoding' must be str, not " ++ u.argumentFamily)
  | .text, ts => misuse ("str() takes at most 3 arguments (" ++ toString ts.length ++ " given)")
  | .bool, [] => .ok (.constant (.bool false))
  | .bool, [t] => .ok (.constant (.bool t.isTrue))
  | .bool, ts => atMostOne "bool" ts.length
  | .float, [] => .ok (.constant (.float (.zero false)))
  | .float, [t] => value (toBinary t)
  | .float, ts => atMostOne "float" ts.length
  | .decimal, [] => .ok (.constant (.decimal (.finite false 0 0)))
  | .decimal, [t] | .decimal, [t, .constant .null] => value (toDecimal t)
  | .decimal, [_, _] => misuse "optional argument must be a context"
  | .moment, ts => value (toMoment ts)
  | .date, ts => value (toDate ts)
  | .any, _ => misuse "Any cannot be instantiated"
  | .object, [] =>
    let text := "<object object at 0x7f0000000000>"
    .ok (.constant (.thing ⟨"object", text, text, true, false⟩))
  | .object, _ :: _ => misuse "object() takes no arguments"
  | .null, _ :: _ => misuse "NoneType takes no arguments"
  | .null, [] => .ok (.constant .null)
  | .bytes, [] => .ok (.constant (.bytes []))
  | .bytes, [t] => toOctets t
  | .bytes, [.constant (.text s), .constant (.text e)] => encoded s e
  | .bytes, [.constant (.text _), u] =>
    misuse ("bytes() argument 'encoding' must be str, not " ++ u.argumentFamily)
  | .bytes, [_, .constant (.text _)] => misuse "encoding without a string argument"
  | b, _ => .error (.unsupported b.className.name)

def callContainer (f : Family) (args : List Declared) : Except Fault Declared := do
  match f, args with
  | .list, [] => return rowOf .list []
  | .tuple, [] => return rowOf .tuple []
  | .dict, [] => return .row .dict []
  | .set, [] => return .row .set []
  | .frozenset, [] => return .row .frozenset []
  | .list, [t] => return rowOf .list (← elements t)
  | .tuple, [t] => return rowOf .tuple (← elements t)
  | .set, [t] =>
    let ts ← elements t
    ts.forM checkKey
    return .row .set (distinct ts)
  | .frozenset, [t] =>
    let ts ← elements t
    ts.forM checkKey
    return .row .frozenset (distinct ts)
  | .dict, [t] => return .row .dict (← putAll [] t)
  | .list, ts | .tuple, ts | .set, ts | .frozenset, ts | .dict, ts =>
    atMostOne f.className.name ts.length
  | f, _ => throw (.unsupported f.className.name)

/-- The member of an enumeration that an argument stands for. -/
def callEnumeration (e : Enumeration) (args : List Declared) : Except Fault Declared :=
  match args with
  | [] => misuse "EnumType.__call__() missing 1 required positional argument: 'value'"
  | [t] =>
    let isFound (m : String × Value) : Bool :=
      alike (.constant m.2) t || t == .constant (.symbol e.className.name m.1 m.2 e.whole)
    match e.members.find? isFound with
    | some m => .ok (.constant (.symbol e.className.name m.1 m.2 e.whole))
    | none => .error (.badValue (t.inspect ++ " is not a valid " ++ e.className.name))
  | _ => .error (.unsupported e.className.name)

/-- The exceptions that show a number and a text in words. -/
def osErrors : List String := listed (
  "BlockingIOError BrokenPipeError ChildProcessError ConnectionAbortedError ConnectionError " ++
  "ConnectionRefusedError ConnectionResetError FileExistsError FileNotFoundError " ++
  "InterruptedError IsADirectoryError NotADirectoryError OSError PermissionError " ++
  "ProcessLookupError TimeoutError")

def exceptionOf (name : String) (quotes : Bool) (args : List Declared) : Except Fault Declared := do
  let inspected := args.map inspect
  let shown ← match args with
    | [] => pure ""
    | [number, text] =>
      if osErrors.contains name then
        pure ("[Errno " ++ (← number.display) ++ "] " ++ (← text.display))
      else pure (Value.tupleText (args.map inspect))
    | [t] => if quotes then pure t.inspect else t.display
    | ts => pure (Value.tupleText (ts.map inspect))
  return .constant (.thing ⟨name, shown, name ++ "(" ++ ", ".intercalate inspected ++ ")", true,
    true⟩)

def toRange (args : List Declared) : Except Fault Declared := do
  if args.isEmpty || 3 < args.length then wrongCount "range" 1 3 args.length
  let parts ← args.mapM wholeOf
  let made (a b k : Int) : Declared := .row .range ([a, b, k].map fun n ↦ .constant (.int n))
  match parts with
  | [b] => return made 0 b 1
  | [a, b] => return made a b 1
  | [a, b, k] =>
    if k = 0 then .error (.badValue "range() arg 3 must not be zero") else return made a b k
  | parts => wrongCount "range" 1 3 parts.length

/-- A new class: its name, the classes it builds on and what it holds. -/
def newClass (args : List Declared) : Except Fault Declared :=
  let refuse (place wanted : String) (t : Declared) : Except Fault Declared :=
    misuse ("type.__new__() argument " ++ place ++ " must be " ++ wanted ++ ", not " ++
      t.argumentFamily)
  match args with
  | [.constant (.text name), bases, held] => match bases.series?, held with
    | some (.tuple, ts), .row .dict hs =>
      if hs.isEmpty && ts.all isClass && !ts.contains (.base .bool) then
        .ok (.other ⟨⟨"", name⟩, ts.any holdsMany, false, .refusal⟩)
      else .error (.unsupported "type")
    | some (.tuple, _), t => refuse "3" "dict" t
    | _, _ => refuse "2" "tuple" bases
  | [t, _, _] => refuse "1" "str" t
  | _ => misuse "type() takes 1 or 3 arguments"
where
  /-- Do the objects of a class hold many values? -/
  holdsMany : Declared → Bool
    | .container .. | .base .bytes | .base .bytearray => true
    | .other c => c.isContainer
    | _ => false

/-- What a class beside the others makes of arguments. -/
def callOther (known : String → Option Enumeration) (c : OtherClass) (args : List Declared) :
    Except Fault Declared :=
  match c.making, args with
  | .complexNumber, [] => .ok (.constant (.complex ⟨.zero false, .zero false⟩))
  | .complexNumber, [t] => (toComplex t).map .constant
  | .complexNumber, [t, u] => (toComplexOf t u).map .constant
  | .exception quotes, ts => exceptionOf c.className.name quotes ts
  | .classOfText, [t] => classOf known t
  | .classOfText, ts => newClass ts
  | .wrapped opening closing isCopied, ts =>
    let nothing : Declared := .constant .null
    match c.className.name, ts with
    | "slice", [b] => .ok (.row .slice [nothing, b, nothing])
    | "slice", [a, b] => .ok (.row .slice [a, b, nothing])
    | "slice", [a, b, k] => .ok (.row .slice [a, b, k])
    | "slice", ts => wrongCount "slice" 1 3 ts.length
    | "property", _ => .error (.unsupported "property")
    | name, [t] =>
      let text := opening ++ t.inspect ++ closing
      .ok (.constant (.thing ⟨name, text, text, true, isCopied⟩))
    | name, ts => misuse (name ++ " expected 1 argument, got " ++ toString ts.length)
  | _, ts =>
    if c.className == ⟨"", "range"⟩ then toRange ts
    else if [⟨"", "zip"⟩, ⟨"", "enumerate"⟩, ⟨"", "reversed"⟩].contains c.className then
      callWalk c.className.name ts
    else if c.className == ⟨"", "super"⟩ && ts.isEmpty then
      .error (.foreign "RuntimeError" "super(): no arguments")
    else if c.className.home.isEmpty && (standardNames.lookup c.className.name).isNone then
      if ts.isEmpty then .error (.unsupported c.className.name)
      else misuse (c.className.name ++ "() takes no arguments")
    else .error (.unsupported c.className.name)

def callDocument (d : DocumentClass) (args : List Declared) : Except Fault Declared :=
  let made (args : List (String × Value)) : Except Fault Declared :=
    (d.constructor.members args).map fun ms ↦ .constant (Conversion.recordOf d ms)
  let beyond : Except Fault Declared := .error (.unsupported d.className.name)
  match args with
  | [] => ((d.constructor.applyNone?).map made).getD beyond
  | [.constant v] => match d.constructor.applyOne? v with
    | some kept => made kept
    | none =>
      if d.constructor.parameters.isEmpty then misuse (d.className.name ++ "() takes no arguments")
      else beyond
  | _ =>
    if d.constructor.parameters.isEmpty then misuse (d.className.name ++ "() takes no arguments")
    else beyond

end TypedSearch.Declared
