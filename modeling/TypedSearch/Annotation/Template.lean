import TypedSearch.Annotation.Layout
import TypedSearch.Annotation.Pieces

/-!
# Templates

A template is a text with percent marks, each with a letter that tells how the next of some things
is written in its place: `s` for its text, `r` for the text that an expression would have, `a` for
the same in ASCII, `d` for a whole number. Between the mark and the letter stands the layout. A
doubled mark stands for itself. Another sort of template has braces in place of the marks.
-/

namespace TypedSearch.Template

open Text Declared

/-- Is the thing one that a template may look into instead of taking it as a whole? -/
def hasKeys (t : Declared) : Bool :=
  match t with
  | .constant (.list _) | .constant (.bytes _) | .row .list _ | .row .dict _ | .row .range _
  | .enumeration _
  | .container _ .alias | .applied .. | .appliedOther .. | .special _ | .classVar _ | .union ..
  | .literal _ | .unpacked _ => true
  | _ => false

/-- The things that go into a template: the items of a tuple, or a single one. -/
def fillings (t : Declared) : List Declared :=
  match t.series? with
  | some (.tuple, ts) => ts
  | _ => [t]

/-! ## Marks -/

/-- What stands between a percent mark and its letter: the key of what is written, and the
layout. -/
structure Mark where
  key : Option (List Char)
  layout : Layout
  /-- Is the width, or the precision, one of the things? -/
  takesWidth : Bool
  takesPrecision : Bool
deriving DecidableEq

/-- Takes the key of a mark up to the parenthesis that closes it. -/
def takeKey : Nat → List Char → Option (List Char × List Char)
  | _, [] => none
  | 0, ')' :: cs => some ([], cs)
  | depth, c :: cs => do
    let (key, others) ← takeKey (if c == '(' then depth + 1 else if c == ')' then depth - 1
      else depth) cs
    return (c :: key, others)

/-- Takes a number of columns, or a star for one of the things. -/
def takeWidth (cs : List Char) : Nat × Bool × List Char :=
  match cs with
  | '*' :: cs => (0, true, cs)
  | cs => ((cs.takeWhile Char.isDigit).foldl (fun n c ↦ 10 * n + (c.toNat - 48)) 0, false,
      cs.dropWhile Char.isDigit)

/-- Takes what stands behind a percent mark up to its letter; `isMapping` tells whether things have
keys. -/
def takeMark (isMapping : Bool) (cs : List Char) : Except Fault (Mark × List Char) := do
  let (key, cs) ← match cs with
    | '(' :: cs =>
      if isMapping then match takeKey 0 cs with
        | some (key, cs) => pure (some key, cs)
        | none => .error (.badValue "incomplete format key")
      else misuse "format requires a mapping"
    | cs => pure (none, cs)
  let isFlag (c : Char) : Bool := "#0- +".toList.contains c
  let flags := cs.takeWhile isFlag
  let sign := if flags.contains '+' then some '+' else if flags.contains ' ' then some ' ' else none
  let isLeft := flags.contains '-'
  let (width, takesWidth, cs) := takeWidth (cs.dropWhile isFlag)
  let (precision, takesPrecision, cs) := match cs with
    | '.' :: cs => let (n, b, cs) := takeWidth cs; (some n, b, cs)
    | cs => (none, false, cs)
  let cs := match cs with
    | 'h' :: cs | 'l' :: cs | 'L' :: cs => cs
    | cs => cs
  let align := if isLeft then some '<' else none
  return (⟨key, ⟨none, align, sign, false, flags.contains '#', flags.contains '0' && !isLeft, width,
    none, precision, none⟩, takesWidth, takesPrecision⟩, cs)

def textIn (l : Layout) (s : String) : String :=
  let cs := s.toList
  .ofList ({ l with zeros := false }.pad '>' [] (cs.take (l.precision.getD cs.length)))

/-- A whole number in place of a mark with the given letter. -/
def wholeIn (l : Layout) (letter : Char) (n : Int) : String :=
  let (mark, ds) := Layout.based letter n.natAbs
  let ds := List.replicate (l.precision.getD 0 - ds.length) '0' ++ ds
  l.number (l.signOf (n < 0) ++ if l.alternate then mark else []) ds [] 3

/-- The whole number that a thing is in place of a mark with the given letter; a decimal letter
takes the whole part of other numbers. -/
def wholeFor (letter : Char) (t : Declared) : Except Fault Int :=
  let refuse (wanted : String) : Except Fault Int := misuse
    ("%" ++ .singleton letter ++ " format: " ++ wanted ++ " is required, not " ++ t.family)
  let isDecimal := letter == 'd' || letter == 'i' || letter == 'u'
  match t with
  | .constant v => match v.whole?, v.rational? with
    | some n, _ => .ok n
    | none, some q => if isDecimal then .ok (q.num.tdiv q.den) else refuse "an integer"
    | none, none => match v with
      | .float .nan => .error (.badValue "cannot convert float NaN to integer")
      | .float _ => .error (.overflow "cannot convert float infinity to integer")
      | _ => refuse (if isDecimal then "a real number" else "an integer")
  | _ => refuse (if isDecimal then "a real number" else "an integer")

def characterFor (t : Declared) : Except Fault String :=
  match t with
  | .constant (.text s) =>
    if s.length = 1 then .ok s else misuse "%c requires int or char"
  | t => match t.place? with
    | some n =>
      if n < 0 || 0x110000 ≤ n then .error (.overflow "%c arg not in range(0x110000)")
      else if n.toNat.isValidChar then .ok (.singleton (Char.ofNat n.toNat))
      else .error (.unsupported "%")
    | none => misuse "%c requires int or char"

/-- What stands in place of a mark with the given letter. -/
def written (l : Layout) (letter : Char) (place : Nat) (t : Declared) : Except Fault String :=
  match letter with
  | 's' => t.display.map (textIn l)
  | 'r' => .ok (textIn l t.inspect)
  | 'a' => .ok (textIn l (asciiOnly t.inspect))
  | 'c' => (characterFor t).map (textIn { l with precision := none })
  | c =>
    if "diuoxX".toList.contains c then (wholeFor c t).map (wholeIn l c)
    else if "eEfFgG".toList.contains c then match t with
      | .constant v => match v.toBinary? with
        | some x => do l.binary c (← x)
        | none => misuse ("must be real number, not " ++ v.family)
      | t => misuse ("must be real number, not " ++ t.family)
    else .error (.badValue ("unsupported format character '" ++ .singleton c ++ "' (0x" ++
      .ofList (Nat.toDigits 16 c.toNat) ++ ") at index " ++ toString place))

def takeNext : List Declared → Except Fault (Declared × List Declared)
  | [] => misuse "not enough arguments for format string"
  | t :: ts => .ok (t, ts)

/-- A number of columns that is the next of some things, if `isTaken`. -/
def columnsFrom (isTaken : Bool) (n : Nat) (ts : List Declared) :
    Except Fault (Int × List Declared) := do
  if !isTaken then return (n, ts)
  let (t, ts) ← takeNext ts
  match t.place? with
  | some n => return (n, ts)
  | none => misuse "* wants int"

def underKey (whole : Declared) (key : String) : Except Fault Declared :=
  match whole with
  | .enumeration e => match e.members.find? fun m ↦ m.1 == key with
    | some m => .ok (.constant (.symbol e.className.name m.1 m.2 e.whole))
    | none => .error (.unknownKey (quoted key))
  | .container .. | .special _ => .error (.unsupported "%")
  | .applied .. | .appliedOther .. | .union .. | .classVar _ | .literal _ | .unpacked _ =>
    misuse (whole.shown ++ " is not a generic class")
  | t => item t (.constant (.text key))

/-- What stands in place of a mark, and the things that are left. -/
def fillMark (whole : Declared) (m : Mark) (letter : Char) (place : Nat) (ts : List Declared) :
    Except Fault (String × List Declared) := do
  let (width, ts) ← columnsFrom m.takesWidth m.layout.width ts
  let (precision, ts) ← columnsFrom m.takesPrecision (m.layout.precision.getD 0) ts
  let layout := { m.layout with
    width := width.natAbs
    align := if width < 0 then some '<' else m.layout.align
    precision := m.layout.precision.map fun _ ↦ precision.toNat }
  if letter == '%' then return ("%", ts)
  match m.key with
  | some key =>
    let t ← underKey whole (.ofList key)
    return (← written layout letter place t, ts)
  | none =>
    let (t, ts) ← takeNext ts
    return (← written layout letter place t, ts)

/-- Fills the marks of a template with things one after the other, in at most `fuel` steps; tells
what is left of them. -/
def fillWith (whole : Declared) : Nat → Nat → List Char → List Declared →
    Except Fault (String × List Declared)
  | 0, _, _, ts | _ + 1, _, [], ts => .ok ("", ts)
  | fuel + 1, place, '%' :: cs, ts => do
    let (m, others) ← takeMark (hasKeys whole) cs
    match others with
    | [] => .error (.badValue "incomplete format")
    | letter :: behind =>
      let place := place + 1 + (cs.length - others.length)
      let (filled, ts) ← fillMark whole m letter place ts
      let (s, ts) ← fillWith whole fuel (place + 1) behind ts
      return (filled ++ s, ts)
  | fuel + 1, place, c :: cs, ts => do
    let (s, ts) ← fillWith whole fuel (place + 1) cs ts
    return (.singleton c ++ s, ts)

/-- A template filled with a thing; none may be left over, unless the thing has keys. -/
def fill (template : String) (t : Declared) : Except Fault String := do
  let (s, others) ← fillWith t (template.toList.length + 1) 0 template.toList (fillings t)
  if others.isEmpty || hasKeys t then return s
  else misuse "not all arguments converted during string formatting"

/-- Octets as a template for a thing, where they hold no mark. -/
def fillOctets (bs : List UInt8) (t : Declared) : Except Fault (List UInt8) :=
  if bs.contains 37 then .error (.unsupported "%")
  else if (fillings t).isEmpty || hasKeys t then .ok bs
  else misuse "not all arguments converted during bytes formatting"

/-! ## Braces -/

/-- How the braces of a template say what is written in their place: not at all so far, by their
order, or by numbers. -/
inductive Numbering where
  | unsettled
  | automatic (next : Nat)
  | manual
deriving DecidableEq

/-- The number of the thing for braces with a number in them, or with none. -/
def Numbering.take (n : Numbering) (number : Option Nat) : Except Fault (Nat × Numbering) :=
  let refuse (a b : String) : Except Fault (Nat × Numbering) :=
    .error (.badValue ("cannot switch from " ++ a ++ " to " ++ b))
  let manual := "manual field specification"
  let automatic := "automatic field numbering"
  match n, number with
  | .unsettled, none => .ok (0, .automatic 1)
  | .automatic i, none => .ok (i, .automatic (i + 1))
  | .manual, none => refuse manual automatic
  | .automatic _, some _ => refuse automatic manual
  | _, some i => .ok (i, .manual)

def number? (cs : List Char) : Option Nat :=
  if !cs.isEmpty && cs.all Char.isDigit then some (cs.foldl (fun n c ↦ 10 * n + (c.toNat - 48)) 0)
    else none

/-- What the keys in brackets behind a name find, one after the other. -/
def follow (t : Declared) : Nat → List Char → Except Fault Declared
  | _, [] => .ok t
  | 0, _ => .error (.unsupported "format")
  | fuel + 1, '[' :: cs => do
    let key := cs.takeWhile (· != ']')
    match cs.dropWhile (· != ']') with
    | [] => .error (.badValue "Missing ']' in format string")
    | _ :: others =>
      if key.isEmpty then .error (.badValue "Empty attribute in format string")
      else
        let key : Declared := match number? key with
          | some i => .constant (.int i)
          | none => .constant (.text (.ofList key))
        let u ← item t key
        follow u fuel others
  | _ + 1, '.' :: _ => .error (.unsupported "format")
  | _ + 1, _ => .error (.badValue "Only '.' or '[' may follow ']' in format field specifier")

def thingNamed (ts : List Declared) (named : List (String × Declared)) (n : Numbering)
    (name : List Char) :
    Except Fault (Declared × Numbering) := do
  let isFirst (c : Char) : Bool := c != '.' && c != '['
  let first := name.takeWhile isFirst
  let place? ← match number? first with
    | some i => (n.take (some i)).map some
    | none => if first.isEmpty then (n.take none).map some else pure none
  let (t?, i, n) := match place? with
    | some (i, n) => (ts[i]?, i, n)
    | none => (named.lookup (String.ofList first), 0, n)
  match t? with
  | some t => return (← follow t name.length (name.dropWhile isFirst), n)
  | none =>
    if place?.isNone then .error (.unknownKey (quoted (.ofList first)))
    else .error (.foreign "IndexError"
      ("Replacement index " ++ toString i ++ " out of range for positional args tuple"))

def converted (conversion : List Char) (t : Declared) : Except Fault Declared :=
  let text (s : String) : Declared := .constant (.text s)
  match conversion with
  | [] => .ok t
  | ['!', 's'] => t.display.map text
  | ['!', 'r'] => .ok (text t.inspect)
  | ['!', 'a'] => .ok (text (asciiOnly t.inspect))
  | ['!'] => .error (.badValue "end of string while looking for conversion specifier")
  | ['!', c] => .error (.badValue ("Unknown conversion specifier '" ++ .singleton c ++ "'"))
  | _ => .error (.badValue "expected ':' after conversion specifier")

/-- Fills the braces of a template, in at most `fuel` steps; `layout` fills those in the layouts of
braces. A doubled brace stands for itself. -/
def fillBracesWith (ts : List Declared) (named : List (String × Declared))
    (layout : Numbering → List Char → Except Fault (String × Numbering)) :
    Nat → Numbering → List Char → Except Fault (String × Numbering)
  | 0, n, _ | _ + 1, n, [] => .ok ("", n)
  | fuel + 1, n, '\x7b' :: '\x7b' :: cs => do
    let (s, n) ← fillBracesWith ts named layout fuel n cs
    return ("\x7b" ++ s, n)
  | fuel + 1, n, '\x7d' :: '\x7d' :: cs => do
    let (s, n) ← fillBracesWith ts named layout fuel n cs
    return ("\x7d" ++ s, n)
  | _ + 1, _, ['\x7b'] => .error (.badValue "Single '\x7b' encountered in format string")
  | _ + 1, _, '\x7d' :: _ => .error (.badValue "Single '\x7d' encountered in format string")
  | fuel + 1, n, '\x7b' :: cs => do
    match Annotation.takeLayout 0 cs with
    | none => .error (.badValue "expected '\x7d' before end of string")
    | some (body, others) =>
      let isName (c : Char) : Bool := c != '!' && c != ':'
      let behind := body.dropWhile isName
      let (t, n) ← thingNamed ts named n (body.takeWhile isName)
      let t ← converted (behind.takeWhile (· != ':')) t
      let (l, n) ← layout n ((behind.dropWhile (· != ':')).drop 1)
      let filled ← t.laidOut l
      let (s, n) ← fillBracesWith ts named layout fuel n (others.drop 1)
      return (filled ++ s, n)
  | fuel + 1, n, c :: cs => do
    let (s, n) ← fillBracesWith ts named layout fuel n cs
    return (.singleton c ++ s, n)

/-- A template filled in its braces with some things, which braces stand for by their order, by
numbers, or by names; some may be left over. -/
def fillBraces (template : String) (ts : List Declared) (named : List (String × Declared)) :
    Except Fault String := do
  let beyond (n : Numbering) (cs : List Char) : Except Fault (String × Numbering) :=
    if cs.contains '\x7b' then .error (.badValue "Max string recursion exceeded")
      else .ok (.ofList cs, n)
  let inner (n : Numbering) (cs : List Char) : Except Fault (String × Numbering) :=
    fillBracesWith ts named beyond (cs.length + 1) n cs
  return (← fillBracesWith ts named inner (template.toList.length + 1) .unsettled template.toList).1

example : (fill "%s: 5%%" (.constant (.text "n"))).toOption = some "n: 5%" ∧
    (fill "%s" (.constant (.tuple []))).toOption = none := by decide +kernel

end TypedSearch.Template
