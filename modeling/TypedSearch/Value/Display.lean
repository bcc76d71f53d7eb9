import TypedSearch.Fault
import TypedSearch.Value.Basic

/-!
# Displaying values

A value has two texts. `display` is what a reader sees: a text is shown as it is. `inspect` is what
stands inside a list or a message: a text is quoted and every other value names its class.

## What is covered

Values of classes written by hand are shown by texts that come with them (`code`, `thing`); the code
that makes these texts is not carried.
-/

namespace TypedSearch

open Text

/-- The words `name=text` for those parts that are not zero. -/
def namedParts (parts : List (String × Int)) : List String :=
  (parts.filter fun p ↦ p.2 != 0).map fun p ↦ p.1 ++ "=" ++ .ofList (Whole.write p.2)

/-- The expression for a clock's offset: days, seconds and microseconds, the last two not
negative. -/
def Offset.inspect (o : Offset) : String :=
  if o.micros = 0 then "datetime.timezone.utc"
  else
    let days := o.micros / microsPerDay
    let rest := o.micros % microsPerDay
    "datetime.timezone(datetime.timedelta(" ++
      ", ".intercalate (namedParts
        [("days", days), ("seconds", rest / 1000000), ("microseconds", rest % 1000000)]) ++ "))"

def commaNumbers (ns : List Nat) : String :=
  ", ".intercalate (ns.map fun n ↦ .ofList (decimalDigits n))

def Date.inspect (d : Date) : String :=
  "datetime.date(" ++ commaNumbers [d.year, d.month, d.day] ++ ")"

/-- The expression for a moment; seconds and microseconds are left off from the end while zero. -/
def Moment.inspect (m : Moment) : String :=
  let seconds :=
    if m.time.micro != 0 then [m.time.second, m.time.micro]
    else if m.time.second != 0 then [m.time.second]
    else []
  "datetime.datetime(" ++
    commaNumbers ([m.date.year, m.date.month, m.date.day, m.time.hour, m.time.minute] ++ seconds) ++
    (match m.offset with
      | none => ""
      | some o => ", tzinfo=" ++ o.inspect) ++ ")"

namespace Value

def boolText (b : Bool) : String := if b then "True" else "False"

/-- Words in brackets, with a comma after a single one. -/
def tupleText : List String → String
  | [x] => "(" ++ x ++ ",)"
  | xs => "(" ++ ", ".intercalate xs ++ ")"

mutual

def inspect : Value → String
  | .null => "None"
  | .bool b => boolText b
  | .int n => .ofList (Whole.write n)
  | .float x => .ofList x.write
  | .complex z => .ofList z.write
  | .decimal d => "Decimal('" ++ .ofList d.scientific ++ "')"
  | .text s | .code _ s _ => quoted s
  | .bytes bs => quotedBytes bs
  | .date d => d.inspect
  | .moment m => m.inspect
  | .ratio q =>
    "Fraction(" ++ .ofList (Whole.write q.num) ++ ", " ++ .ofList (decimalDigits q.den) ++ ")"
  | .symbol family name value _ => "<" ++ family ++ "." ++ name ++ ": " ++ inspect value ++ ">"
  | .list xs => "[" ++ ", ".intercalate (inspectAll xs) ++ "]"
  | .tuple xs => tupleText (inspectAll xs)
  | .record family names values _ =>
    family ++ "(" ++
      ", ".intercalate (List.zipWith (fun n v ↦ n ++ "=" ++ v) names (inspectAll values)) ++ ")"
  | .thing t => t.inspected

/-- The texts of a row of values inside a list or a message. -/
def inspectAll : List Value → List String
  | [] => []
  | x :: xs => inspect x :: inspectAll xs

end

def display : Value → String
  | .text s | .code _ _ s => s
  | .decimal d => .ofList d.scientific
  | .date d => .ofList d.write
  | .moment m => .ofList m.write
  | .ratio q => .ofList (Ratio.write q)
  | .symbol family name value whole => if whole then inspect value else family ++ "." ++ name
  | .thing t => t.shown
  | v => inspect v

mutual

/-- Are all integers inside a value short enough to be written? -/
def fits : Value → Bool
  | .int n => Whole.Writable n
  | .ratio q => Ratio.Writable q
  | .symbol _ _ value _ => fits value
  | .list xs | .tuple xs | .record _ _ xs _ => fitsAll xs
  | _ => true

/-- Are all integers inside a row of values short enough to be written? -/
def fitsAll : List Value → Bool
  | [] => true
  | x :: xs => fits x && fitsAll xs

end

/-- The text of a value on its own, if its integers are short enough to be written. -/
def display? (v : Value) : Except Fault String :=
  match v with
  | .symbol _ _ value whole =>
    if whole && !fits value then .error .tooManyDigits else .ok v.display
  | v => if fits v then .ok v.display else .error .tooManyDigits

/-- The text of a value inside a message, if its integers are short enough to be written. -/
def inspect? (v : Value) : Except Fault String :=
  if fits v then .ok v.inspect else .error .tooManyDigits

end Value

end TypedSearch
