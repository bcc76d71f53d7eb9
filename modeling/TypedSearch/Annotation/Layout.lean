import TypedSearch.Calendar.Pattern
import TypedSearch.Declared.Elements
import TypedSearch.Value.Arithmetic

/-!
# Layouts

A layout says how wide a text is written and with what around it, and for a number also with which
sign, in which base or with how many places. `Layout.read` reads one, and `Declared.laidOut` writes
a thing in it.
-/

namespace TypedSearch

open Text

/-- How a thing is laid out. -/
structure Layout where
  /-- The character that fills up, where one is given. -/
  fill : Option Char
  /-- Where the thing stands: `<`, `>`, `^`, or `=` for filling behind the sign. -/
  align : Option Char
  sign : Option Char
  /-- Is a zero without its sign if it comes from rounding? -/
  plainZero : Bool
  alternate : Bool
  /-- Do zeros fill up, because one is written before the width? -/
  zeros : Bool
  width : Nat
  /-- What stands between groups of digits. -/
  grouping : Option Char
  precision : Option Nat
  /-- The letter that tells how a thing is written. -/
  letter : Option Char
deriving DecidableEq

namespace Layout

/-! ## Reading -/

def isAlign (c : Char) : Bool := c == '<' || c == '>' || c == '^' || c == '='

/-- Takes the filling character and the mark of where the thing stands. -/
def takeAlign : List Char → Option Char × Option Char × List Char
  | c :: d :: cs =>
    if isAlign d then (some c, some d, cs)
    else if isAlign c then (none, some c, d :: cs)
    else (none, none, c :: d :: cs)
  | [c] => if isAlign c then (none, some c, []) else (none, none, [c])
  | [] => (none, none, [])

def takeIf (p : Char → Bool) : List Char → Option Char × List Char
  | c :: cs => if p c then (some c, cs) else (none, c :: cs)
  | [] => (none, [])

def takeColumns (cs : List Char) : Except Fault (Option Nat × List Char) :=
  let ds := cs.takeWhile Char.isDigit
  let n := ds.foldl (fun n c ↦ 10 * n + (c.toNat - 48)) 0
  if ds.isEmpty then .ok (none, cs)
  else if 9223372036854775807 < n then .error (.badValue "Too many decimal digits in format string")
  else .ok (some n, cs.dropWhile Char.isDigit)

def takeGrouping (cs : List Char) : Except Fault (Option Char × List Char) :=
  let both : Except Fault (Option Char × List Char) :=
    .error (.badValue "Cannot specify both ',' and '_'.")
  match cs with
  | ',' :: '_' :: _ | '_' :: ',' :: _ => both
  | ',' :: cs => .ok (some ',', cs)
  | '_' :: cs => .ok (some '_', cs)
  | cs => .ok (none, cs)

def takePrecision : List Char → Except Fault (Option Nat × List Char)
  | '.' :: cs => do
    match ← takeColumns cs with
    | (none, _) => .error (.badValue "Format specifier missing precision")
    | x => return x
  | cs => .ok (none, cs)

/-- Refuses a grouping that the way of writing does not know. -/
def checkGrouping (grouping letter : Option Char) : Except Fault Unit :=
  match grouping, letter with
  | none, _ | _, none => .ok ()
  | some g, some c =>
    if "defgEG%F".toList.contains c || (g == '_' && "boxX".toList.contains c) then .ok ()
    else .error (.badValue ("Cannot specify '" ++ .singleton g ++ "' with '" ++ .singleton c ++
      "'."))

def read (family text : String) : Except Fault Layout := do
  let (fill, align, cs) := takeAlign text.toList
  let (sign, cs) := takeIf (fun c ↦ c == ' ' || c == '+' || c == '-') cs
  let (z, cs) := takeIf (· == 'z') cs
  let (hash, cs) := takeIf (· == '#') cs
  let (zero, cs) := if fill.isSome then (none, cs) else takeIf (· == '0') cs
  let (width, cs) ← takeColumns cs
  let (grouping, cs) ← takeGrouping cs
  let (precision, cs) ← takePrecision cs
  match cs with
  | _ :: _ :: _ =>
    .error (.badValue ("Invalid format specifier '" ++ text ++ "' for object of type '" ++
      family ++ "'"))
  | cs =>
    checkGrouping grouping cs.head?
    return ⟨fill, align, sign, z.isSome, hash.isSome, zero.isSome, width.getD 0, grouping,
      precision, cs.head?⟩

/-! ## Writing -/

/-- A text filled up to the width; what stands before it keeps to the left of the filling if that
goes behind the sign. -/
def pad (l : Layout) (standard : Char) (front body : List Char) : List Char :=
  let fill := l.fill.getD (if l.zeros then '0' else ' ')
  let align := l.align.getD (if l.zeros && standard == '>' then '=' else standard)
  let lack := l.width - (front.length + body.length)
  let filling (n : Nat) : List Char := List.replicate n fill
  match align with
  | '<' => front ++ body ++ filling lack
  | '^' => filling (lack / 2) ++ front ++ body ++ filling (lack - lack / 2)
  | '=' => front ++ filling lack ++ body
  | _ => filling lack ++ front ++ body

def refuse {α : Type} (message : String) : Except Fault α := .error (.badValue message)

/-- Refuses a way of writing that a class does not know. -/
def unknownLetter {α : Type} (family : String) (c : Char) : Except Fault α :=
  refuse ("Unknown format code '" ++ .singleton c ++ "' for object of type '" ++ family ++ "'")

def text (l : Layout) (family : String) (s : String) : Except Fault String := do
  if l.sign == some ' ' then refuse "Space not allowed in string format specifier"
  if l.sign.isSome then refuse "Sign not allowed in string format specifier"
  if l.plainZero then refuse "Negative zero coercion (z) not allowed in string format specifier"
  if l.alternate then refuse "Alternate form (#) not allowed in string format specifier"
  if l.letter.any (· != 's') then unknownLetter family (l.letter.getD 's')
  if let some g := l.grouping then refuse ("Cannot specify '" ++ .singleton g ++ "' with 's'.")
  if l.align == some '=' then refuse "'=' alignment not allowed in string format specifier"
  let cs := s.toList
  return .ofList (l.pad '<' [] (cs.take (l.precision.getD cs.length)))

/-- Digits in groups of a size, counted from the right. -/
def grouped (size : Nat) (mark : Char) (ds : List Char) : List Char :=
  (ds.reverse.zipIdx.flatMap fun d ↦
    if d.2 != 0 && d.2 % size == 0 then [mark, d.1] else [d.1]).reverse

/-- Grouped digits with as many zeros before them as the columns want, found in at most `fuel`
steps. -/
def groupedWithin (size : Nat) (mark : Char) (columns : Nat) : Nat → List Char → List Char
  | 0, ds => grouped size mark ds
  | fuel + 1, ds =>
    let g := grouped size mark ds
    if columns ≤ g.length then g else groupedWithin size mark columns fuel ('0' :: ds)

def signOf (l : Layout) (isNegative : Bool) : List Char :=
  if isNegative then ['-']
  else match l.sign with
    | some '+' => ['+']
    | some ' ' => [' ']
    | _ => []

/-- A number in a layout, by its sign and what stands before its digits, the digits before the
point, and what comes behind them. -/
def number (l : Layout) (front digits behind : List Char) (size : Nat) : String :=
  let isFilledBehind := l.align == some '=' || (l.align.isNone && l.zeros)
  let fill := l.fill.getD (if l.zeros then '0' else ' ')
  let digits := match l.grouping with
    | none => digits
    | some g =>
      if isFilledBehind && fill == '0' then
        groupedWithin size g (l.width - (front.length + behind.length)) l.width digits
      else grouped size g digits
  .ofList (l.pad '>' front (digits ++ behind))

/-- The digits of a whole number in a base, with what stands before them in the alternate form. -/
def based (letter : Char) (n : Nat) : List Char × List Char :=
  match letter with
  | 'b' => (['0', 'b'], Nat.toDigits 2 n)
  | 'o' => (['0', 'o'], Nat.toDigits 8 n)
  | 'x' => (['0', 'x'], Nat.toDigits 16 n)
  | 'X' => (['0', 'X'], (Nat.toDigits 16 n).map Char.toUpper)
  | _ => ([], decimalDigits n)

/-- A ratio that is not negative with some places behind the point: the digits on either side of
it. -/
def fixed (places : Nat) (q : Rat) : List Char × List Char :=
  let n := Binary64.roundDiv (q.num.natAbs * tenTo places) q.den
  let ds := padded (places + 1) n
  (ds.take (ds.length - places), ds.drop (ds.length - places))

def powerOfTen (e : Int) : Rat :=
  if 0 ≤ e then mkRat (tenTo e.toNat) 1 else mkRat 1 (tenTo e.natAbs)

/-- The power of ten of the first digit of a ratio that is positive, from a first guess on. -/
def powerFrom (q : Rat) : Nat → Int → Int
  | 0, e => e
  | fuel + 1, e =>
    if q < powerOfTen e then powerFrom q fuel (e - 1)
    else if powerOfTen (e + 1) ≤ q then powerFrom q fuel (e + 1)
    else e

/-- A ratio that is not negative as digits with one before the point, and a power of ten. -/
def scientific (places : Nat) (q : Rat) : List Char × List Char × Int :=
  if q = 0 then (['0'], List.replicate places '0', 0)
  else
    let guess : Int := (decimalDigits q.num.natAbs).length - (decimalDigits q.den).length
    let e := powerFrom q 3 guess
    let n := (fun (r : Rat) ↦ Binary64.roundDiv r.num.natAbs r.den)
      (q / powerOfTen e * powerOfTen places)
    let ds := decimalDigits n
    let e := if places + 1 < ds.length then e + 1 else e
    (ds.take 1, (ds.drop 1).take places, e)

def ratio (l : Layout) (letter : Char) (isNegative : Bool) (q : Rat) : Except Fault String :=
  let places := l.precision.getD 6
  let finish (digits fraction behind : List Char) : Except Fault String :=
    let isZero := (digits ++ fraction).all (· == '0')
    let front := l.signOf (isNegative && !(l.plainZero && isZero))
    let point := if fraction.isEmpty && !l.alternate then [] else '.' :: fraction
    .ok (l.number front digits (point ++ behind) 3)
  match letter with
  | 'f' | 'F' => let (a, b) := fixed places q; finish a b []
  | '%' => let (a, b) := fixed places (q * 100); finish a b ['%']
  | 'e' | 'E' =>
    let (a, b, e) := scientific places q
    finish a b (letter :: (if e < 0 then '-' else '+') :: padded 2 e.natAbs)
  | _ =>
    let places := if l.precision == some 0 then 1 else places
    let (a, b, e) := scientific (places - 1) q
    let kept (ds : List Char) : List Char :=
      if l.alternate then ds else (ds.reverse.dropWhile (· == '0')).reverse
    if -4 ≤ e && e < places then
      let (a, b) := fixed (places - 1 - e).toNat q
      finish a (kept b) []
    else finish a (kept b)
      ((if letter == 'G' then 'E' else 'e') :: (if e < 0 then '-' else '+') :: padded 2 e.natAbs)

/-- A number that is written as it would be in an expression, or that is infinite or none, in a
layout. -/
def asWritten (l : Layout) (isNegative : Bool) (cs : List Char) : String :=
  let digits := cs.takeWhile Char.isDigit
  if digits.isEmpty then { l with zeros := l.zeros, grouping := none }.number (l.signOf isNegative)
    cs [] 3
  else l.number (l.signOf isNegative) digits (cs.dropWhile Char.isDigit) 3

def binary (l : Layout) (letter : Char) (x : Binary64) : Except Fault String :=
  let size := x.magnitude
  match Value.rational? (.float size) with
  | some q => l.ratio letter x.hasMinus q
  | none =>
    let cs := size.write ++ if letter == '%' then ['%'] else []
    .ok (l.asWritten x.hasMinus (if letter.isUpper then cs.map Char.toUpper else cs))

def whole (l : Layout) (family : String) (n : Int) : Except Fault String := do
  let letter := l.letter.getD 'd'
  if "eEfFgG%".toList.contains letter then return ← l.ratio letter (n < 0) n.natAbs
  else if !"bcdnoxX".toList.contains letter then unknownLetter family letter
  else
    if l.precision.isSome then refuse "Precision not allowed in integer format specifier"
    if l.plainZero then refuse "Negative zero coercion (z) not allowed in integer format specifier"
    if letter == 'c' then
      if l.sign.isSome then refuse "Sign not allowed with integer format specifier 'c'"
      if l.alternate then refuse "Alternate form (#) not allowed with integer format specifier 'c'"
      if n < 0 || 0x110000 ≤ n then .error (.overflow "%c arg not in range(0x110000)")
      if !n.toNat.isValidChar then .error (.unsupported "format")
      return .ofList (l.pad '>' [] [Char.ofNat n.toNat])
    else
      let (mark, ds) := based letter n.natAbs
      return l.number (l.signOf (n < 0) ++ if l.alternate then mark else []) ds []
        (if mark.isEmpty then 3 else 4)

/-- A complex number in a layout: without a letter as it would be in an expression, with one part by
part. -/
def complex (l : Layout) (z : Complex) : Except Fault String := do
  if l.zeros || l.fill == some '0' then
    refuse "Zero padding is not allowed in complex format specifier"
  if l.align == some '=' then refuse "'=' alignment flag is not allowed in complex format specifier"
  let bare : Layout := { l with fill := none, align := none, width := 0 }
  let pad (cs : List Char) : Except Fault String := .ok (.ofList (l.pad '>' [] cs))
  match l.letter, l.precision, Value.rational? (.float z.re.magnitude),
      Value.rational? (.float z.im.magnitude) with
  | none, none, _, _ =>
    let plus := l.signOf false
    pad <| match z.write with
      | '(' :: '-' :: cs => '(' :: '-' :: cs
      | '(' :: cs => '(' :: plus ++ cs
      | '-' :: cs => '-' :: cs
      | cs => plus ++ cs
  | some c, _, some a, some b =>
    if !"eEfFgG".toList.contains c then unknownLetter "complex" c
    else
      let re ← bare.ratio c z.re.hasMinus a
      let im ← { bare with sign := some '+' }.ratio c z.im.hasMinus b
      pad (re.toList ++ im.toList ++ ['j'])
  | _, _, _, _ => .error (.unsupported "format")

/-- A coefficient and an exponent turned to another exponent; of two coefficients the even one. -/
def rescaled (c : Nat) (e wanted : Int) : Nat × Int :=
  if wanted ≤ e then (c * tenTo (e - wanted).toNat, wanted)
  else (Binary64.roundDiv c (tenTo (wanted - e).toNat), wanted)

/-- A coefficient and an exponent rounded to a number of digits. -/
def roundedTo (n : Nat) (c : Nat) (e : Int) : Nat × Int :=
  let size (c : Nat) : Int := (decimalDigits c).length
  let (d, f) := rescaled c e (e + size c - n)
  if size d + f = size c + e then (d, f) else rescaled d f (f + size d - n)

/-- A decimal number in a layout: all its digits, unless the layout tells how many. -/
def decimal (l : Layout) (isNegative : Bool) (c : Nat) (e : Int) : Except Fault String :=
  let letter := l.letter.getD 'G'
  let isFixed := letter == 'f' || letter == 'F' || letter == '%'
  let isPowered := letter == 'e' || letter == 'E'
  if !isFixed && !isPowered && !"gGn".toList.contains letter || l.grouping == some '_' then
    refuse "invalid format string"
  else
    let e := if letter == '%' then e + 2 else e
    let (c, e) := match l.precision with
      | none => (c, e)
      | some p =>
        if isFixed then rescaled c e (-p)
        else if c = 0 then (c, e)
        else if isPowered then roundedTo (p + 1) c e
        else if max 1 p < (decimalDigits c).length then roundedTo (max 1 p) c e else (c, e)
    let (c, e) := if c = 0 && 0 < e && isFixed then (0, 0) else (c, e)
    let ds := decimalDigits c
    let left : Int := e + ds.length
    let point : Int :=
      if isFixed then left
      else if isPowered then if c = 0 then 1 - (l.precision.getD 0 : Int) else 1
      else if e ≤ 0 && -6 < left then left else 1
    let zeros (n : Int) : List Char := List.replicate n.toNat '0'
    let whole := ds.take point.toNat ++ zeros (point - ds.length)
    let fraction := zeros (-point) ++ ds.drop point.toNat
    let power := left - point
    let mark := if letter.isUpper then 'E' else 'e'
    let behind := (if fraction.isEmpty && !l.alternate then [] else '.' :: fraction) ++
      (if power = 0 && !isPowered then []
        else mark :: (if power < 0 then '-' else '+') :: decimalDigits power.natAbs) ++
      if letter == '%' then ['%'] else []
    .ok (l.number (l.signOf isNegative) (if whole.isEmpty then ['0'] else whole) behind 3)

end Layout

namespace Declared

/-- A thing in a layout. Without one it is written as a text on its own. -/
def laidOut (layout : String) (t : Declared) : Except Fault String :=
  if layout.isEmpty then t.display
  else match t with
    | .constant (.text s) | .constant (.code _ s _) => do (← Layout.read "str" layout).text "str" s
    | .constant (.symbol ..) => do (← Layout.read "str" layout).text "str" (← t.display)
    | .constant (.float x) => do
      let l ← Layout.read "float" layout
      match l.letter with
      | some c =>
        if "eEfFgG%".toList.contains c then l.binary c x else Layout.unknownLetter "float" c
      | none =>
        if l.precision.isSome then .error (.unsupported "format")
        else return l.asWritten x.hasMinus x.magnitude.write
    | .constant (.complex z) => do (← Layout.read "complex" layout).complex z
    | .constant (.date d) => pattern ⟨d, .ofMicros 0, none⟩
    | .constant (.moment m) => pattern m
    | .constant (.decimal (.finite s c e)) =>
      do (← Layout.read "decimal.Decimal" layout).decimal s c e
    | .constant (.decimal d) => do
      let l : Layout := { ← Layout.read "decimal.Decimal" layout with zeros := false }
      return l.asWritten (d.isNegative? == some true) (d.scientific.filter (· != '-'))
    | .constant (.ratio _) => .error (.unsupported "format")
    | .constant v => match v.whole? with
      | some n => do (← Layout.read v.family layout).whole v.family n
      | none => misuse ("unsupported format string passed to " ++ v.family ++ ".__format__")
    | t => misuse ("unsupported format string passed to " ++ t.family ++ ".__format__")
where
  /-- A moment as the layout says, which is a pattern. -/
  pattern (m : Moment) : Except Fault String :=
    match m.layOut? layout.toList with
    | some cs => .ok (.ofList cs)
    | none => .error (.unsupported "format")

example : (laidOut "+06,d" (.constant (.int 1234))).toOption = some "+1,234" ∧
    (laidOut "^5" (.constant (.text "ab"))).toOption = some " ab  " ∧
    (laidOut ".1f" (.constant (.int 2))).toOption = some "2.0" := by decide +kernel

end Declared

end TypedSearch
