import TypedSearch.Calendar.Timestamp
import TypedSearch.Declared.Kind
import TypedSearch.Number.Complex

/-!
# Conversion of single values

From the text of a wire value and a declared type to a value. Each kind has one reader; the generic
kind calls the type itself. A refusal becomes a fault that names text and type, while what a custom
reader raises on its own account passes through.

## What is covered

`convertBy` is the operation `coerce` and `convertAsBy` is `coerce_kind`. A class of the caller's
own is called with the text through a `Caller`; code in it counts by what it returns or raises.
-/

namespace TypedSearch.Conversion

open Text

/-- Why a reader gives no value: it refuses the text, or fails with a fault of its own. -/
inductive Setback where
  | refused (reason : Reason)
  | escaped (fault : Fault)
deriving DecidableEq, Repr

/-- A reader's answer: what it found, or a refusal of the text. -/
def orRefuse {α : Type} (f : α → Value) : Option α → Except Setback Value
  | some x => .ok (f x)
  | none => .error (.refused .badText)

/-! ## Calling a type -/

def characters (s : String) : List Value := s.toList.map fun c ↦ .text (.singleton c)

/-- Is the value the given text, of whatever class of texts? -/
def isText (s : String) : Value → Bool
  | .text t | .code _ t _ => t == s
  | _ => false

/-- The member of an enumeration whose value is the given text. -/
def memberOf (e : Enumeration) (s : String) : Option Value :=
  (e.members.find? fun m ↦ isText s m.2).map fun m ↦ .symbol e.className.name m.1 m.2 e.whole

/-- The greatest character of a text by an order, as a text. -/
def extreme (isBetter : Char → Char → Bool) (s : String) : Except Setback Value :=
  match s.toList with
  | [] => .error (.refused .badText)
  | c :: cs =>
    .ok (.text (.singleton (cs.foldl (fun best d ↦ if isBetter d best then d else best) c)))

def read (r : Reading) (s : String) : Except Setback Value :=
  match r with
  | .table answers => match answers.lookup s with
    | some v => .ok v
    | none => .error (.escaped (.element (.unknownKey (quoted s))))
  | .failure opening => .error (.escaped (.failed (opening ++ s)))
  | .refusal | .failing _ => .error (.refused .badType)
  | .beyond name => .error (.escaped (.unsupported name))
  | .printing => .ok .null
  | .total => if s.isEmpty then .ok (.int 0) else .error (.refused .badType)
  | .length => .ok (.int s.length)
  | .quotation => .ok (.text (quoted s))
  | .asciiQuotation => .ok (.text (asciiOnly (quoted s)))
  | .isPresent => .ok (.bool !s.isEmpty)
  | .always b => .ok (.bool b)
  | .greatest => extreme (fun c d ↦ d < c) s
  | .least => extreme (fun c d ↦ c < d) s
  | .codePoint => match s.toList with
    | [c] => .ok (.int c.toNat)
    | _ => .error (.refused .badType)
  | .sorting => .ok (.list ((s.toList.mergeSort fun c d ↦ c ≤ d).map fun c ↦ .text (.singleton c)))
  | .itself => .ok (.text s)
  | .method m => match m.applied? s with
    | some t => .ok (.text t)
    | none => .error (.escaped (.unsupported m.name))

def make (c : OtherClass) (s : String) : Except Setback Value :=
  let name := c.className.name
  match c.making with
  | .refusal => .error (.refused .badType)
  | .complexNumber => orRefuse .complex (Complex.read s.toList)
  | .exception quotes =>
    .ok (.thing ⟨name, if quotes then quoted s else s, name ++ "(" ++ quoted s ++ ")", true, true⟩)
  | .wrapped opening closing isCopied =>
    let text := opening ++ quoted s ++ closing
    .ok (.thing ⟨name, text, text, name != "slice", isCopied⟩)
  | .classOfText => .ok (.thing ⟨"type", "<class 'str'>", "<class 'str'>", true, true⟩)

/-- A fault of something that was called with a text, as the setback of a conversion. -/
def Setback.ofFault (f : Fault) : Setback :=
  match f with
  | .undefinedOperation | .badDecimal => .refused .undefinedOperation
  | f => match f.kind with
    | "ValueError" => .refused .badText
    | "TypeError" => .refused .badType
    | "ZeroDivisionError" => .refused .divisionByZero
    | "OverflowError" | "DivisionByZero" => .refused (.arithmetic f.kind)
    | _ => .escaped f

/-- The document that a document type makes with some members set: each field holds what was set, or
else what the class holds for it. -/
def recordOf (d : DocumentClass) (members : List (String × Value)) : Value :=
  let held := d.fields.map fun f ↦ (f, members.lookup f <|> d.held.lookup f)
  let present := held.filterMap fun f ↦ f.2.map fun v ↦ (f.1, v)
  .record d.className.name (present.map Prod.fst) (present.map Prod.snd)
    ((held.find? fun f ↦ f.2.isNone).map Prod.fst)

/-- What the class of dates makes of a text. Four characters, the third of which is the number of a
month, are taken for the octets of a date. Octets that stand for no day of the calendar are beyond
this. -/
def unpackDate (s : String) : Except Setback Value :=
  match s.toList.map Char.toNat with
  | [century, year, month, day] =>
    if month < 1 || 12 < month then .error (.refused .badType)
    else if [century, year, day].any (255 < ·) then .error (.refused .badText)
    else match Date.of? (256 * century + year) month day with
      | some d => .ok (.date d)
      | none => .error (.escaped (.unsupported "date"))
  | _ => .error (.refused .badType)

/-- The value that a class of single values makes of a text. -/
def callBase (b : Base) (s : String) : Except Setback Value :=
  match b with
  | .int => orRefuse .int (Whole.readPadded s)
  | .text => .ok (.text s)
  | .bool => .ok (.bool !s.isEmpty)
  | .float => orRefuse .float (Binary64.readPadded s)
  | .decimal => match Decimal.read (trim s.toList) with
    | some d => .ok (.decimal d)
    | none => .error (.refused .undefinedOperation)
  | .ratio => match Ratio.read s.toList with
    | .ok q => .ok (.ratio q)
    | .error .malformed => .error (.refused .badText)
    | .error .zeroDenominator => .error (.refused .divisionByZero)
  | .date => unpackDate s
  | .moment | .null | .object | .bytes | .bytearray | .any => .error (.refused .badType)

def call (t : Declared) (s : String) : Except Setback Value :=
  match t with
  | .base b => callBase b s
  | .container .list .plain | .applied .list .plain _ => .ok (.list (characters s))
  | .container .tuple .plain | .applied .tuple .plain _ => .ok (.tuple (characters s))
  | .container .dict .plain | .applied .dict .plain _ => .error (.refused .badText)
  | .enumeration e => match memberOf e s with
    | some v => .ok v
    | none => .error (.refused .badText)
  | .textual c => .ok (.code c.name s s)
  | .reader r => read r.reading s
  | .document d =>
    ((d.constructor.call (d.constructor.applyOne? (.text s))).map (recordOf d)).mapError .ofFault
  | .other c => make c s
  | _ => .error (.refused .badType)

/-! ## Readers by kind -/

/-- Reads a truth value: `true` or `false` in any case. -/
def readBool (cs : List Char) : Option Bool :=
  match cs.map Char.toLower with
  | ['t', 'r', 'u', 'e'] => some true
  | ['f', 'a', 'l', 's', 'e'] => some false
  | _ => none

abbrev Caller := Declared → String → Except Setback Value

/-- The value of a text by its kind; only the generic kind calls the type. -/
def readAs (call : Caller) (k : Kind) (target : Declared) (s : String) : Except Setback Value :=
  match k with
  | .integer => orRefuse .int (Whole.read (trim s.toList))
  | .string => .ok (.text s)
  | .boolean => orRefuse .bool (readBool (trim s.toList))
  | .float => orRefuse .float (Binary64.read (trim s.toList))
  | .decimal => orRefuse .decimal (Decimal.read (trim s.toList))
  | .timestamp => orRefuse .moment (Timestamp.read (trim s.toList))
  | .optionalTimestamp =>
    if isBlankText s then .ok .null else orRefuse .moment (Timestamp.read (trim s.toList))
  | .generic => call target s

def Setback.fault (s : String) (t : Declared) : Setback → Fault
  | .refused reason => .unreadable s t.name (some reason)
  | .escaped fault => fault

/-- Converts a text by a kind that is already known, calling types as `call` says. -/
def convertAsBy (call : Caller) (k : Kind) (t : Declared) (s : String) : Except Fault Value :=
  (readAs call k t.inner s).mapError (Setback.fault s t)

/-- Converts a text to a declared type, calling types as `call` says. -/
def convertBy (call : Caller) (t : Declared) (s : String) : Except Fault Value := do
  match ← t.kind? with
  | some k => convertAsBy call k t s
  | none => .error (t.naming (.unreadable s · none))

/-- A scalar type converts a text by its kind. -/
theorem convertBy_of_kind? {call : Caller} {k : Kind} {t : Declared} {s : String}
    (h : t.kind? = .ok (some k)) : convertBy call t s = convertAsBy call k t s := by
  rw [convertBy, h]
  rfl

/-- A type of no kind refuses every text, by its name. -/
theorem convertBy_of_kind?_none {call : Caller} {t : Declared} {s : String}
    (h : t.kind? = .ok none) :
    convertBy call t s = .error (t.naming (.unreadable s · none)) := by
  rw [convertBy, h]
  rfl

def convertAs (k : Kind) (t : Declared) (s : String) : Except Fault Value := convertAsBy call k t s

def convert (t : Declared) (s : String) : Except Fault Value := convertBy call t s

end TypedSearch.Conversion
