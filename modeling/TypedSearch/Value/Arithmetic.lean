import TypedSearch.Fault
import TypedSearch.Number.Exponential
import TypedSearch.Number.Precision
import TypedSearch.Value.Equality
import TypedSearch.Value.Order

/-!
# Operators on values

What operators make of plain values. Truth values count as whole numbers; between numbers of two
sorts the wider sort decides. An operator that two classes have no meaning for gives none.
-/

namespace TypedSearch

/-- An operator before an operand. -/
inductive UnaryOp where
  | plus
  | minus
  | invert
  | not
deriving DecidableEq, Repr

/-- An operator between two operands. -/
inductive BinaryOp where
  | or
  | xor
  | and
  | shiftLeft
  | shiftRight
  | add
  | subtract
  | multiply
  | divide
  | floorDivide
  | remainder
  | matrixMultiply
  | power
deriving DecidableEq, Repr

/-- An operator before an operand, as messages name it. -/
def UnaryOp.mark : UnaryOp → String
  | .plus => "+"
  | .minus => "-"
  | .invert => "~"
  | .not => "not"

/-- An operator between two operands, as messages name it. -/
def BinaryOp.mark : BinaryOp → String
  | .or => "|"
  | .xor => "^"
  | .and => "&"
  | .shiftLeft => "<<"
  | .shiftRight => ">>"
  | .add => "+"
  | .subtract => "-"
  | .multiply => "*"
  | .divide => "/"
  | .floorDivide => "//"
  | .remainder => "%"
  | .matrixMultiply => "@"
  | .power => "** or pow()"

namespace Value

/-! ## Sorts of numbers -/

/-- The whole number that a value is or counts as. -/
def whole? : Value → Option Int
  | .bool b => some (if b then 1 else 0)
  | .int n | .symbol _ _ (.int n) true => some n
  | _ => none

/-- The binary number that a value is or is rounded to. -/
def binary? : Value → Option Binary64
  | .float x => some x
  | v => v.whole?.map .ofWhole

def complex? : Value → Option Complex
  | .complex z => some z
  | v => v.binary?.map fun x ↦ ⟨x, .zero false⟩

/-- The ratio that a value is or counts as. -/
def ratio? : Value → Option Rat
  | .ratio q => some q
  | v => v.whole?.map fun n ↦ mkRat n 1

/-- The decimal number that a value is or counts as. -/
def decimal? : Value → Option Decimal
  | .decimal d => some d
  | v => v.whole?.map fun n ↦ .finite (n < 0) n.natAbs 0

/-! ## Numbers -/

/-- The result of an operator on numbers: a value, a fault, or something that is not worked out
here. -/
abbrev Result := Except Fault Value

/-- Gives up on a result that is not worked out here. -/
def beyond (op : BinaryOp) : Result := .error (.unsupported op.mark)

def maxPowerBits : Nat := 10000000

def ofWholes (op : BinaryOp) (a b : Int) : Option Result :=
  let shifted (k : Int) (f : Nat → Int) : Option Result := some <|
    if k < 0 then .error (.badValue "negative shift count")
    else if maxPowerBits < k.toNat then beyond op
    else .ok (.int (f k.toNat))
  match op with
  | .or => some (.ok (.int (Whole.bitOr a b)))
  | .xor => some (.ok (.int (Whole.bitXor a b)))
  | .and => some (.ok (.int (Whole.bitAnd a b)))
  | .shiftLeft => shifted b fun k ↦ a * twoTo k
  | .shiftRight => shifted b fun k ↦ a.fdiv (twoTo k)
  | .add => some (.ok (.int (a + b)))
  | .subtract => some (.ok (.int (a - b)))
  | .multiply => some (.ok (.int (a * b)))
  | .divide => some <|
    if b = 0 then .error (.divisionByZero "division by zero")
    else if a = 0 then .ok (.float (.zero false))
    else match Binary64.ofFraction ((a < 0) != (b < 0)) a.natAbs b.natAbs with
      | .infinite _ => .error (.overflow "integer division result too large for a float")
      | x => .ok (.float x)
  | .floorDivide => some <|
    if b = 0 then .error (.divisionByZero "integer division or modulo by zero")
    else .ok (.int (a.fdiv b))
  | .remainder => some <|
    if b = 0 then .error (.divisionByZero "integer modulo by zero") else .ok (.int (a.fmod b))
  | .matrixMultiply => none
  | .power => some <|
    if 0 ≤ b then
      if maxPowerBits < (Nat.log2 a.natAbs + 1) * b.toNat then beyond op
      else .ok (.int (Int.pow a b.toNat))
    else if a = 0 then .error (.divisionByZero "0.0 cannot be raised to a negative power")
    else if maxPowerBits < (Nat.log2 a.natAbs + 1) * b.natAbs then beyond op
    else .ok (.float (.ofFraction (a < 0 && b % 2 != 0) 1 (Nat.pow a.natAbs b.natAbs)))

/-- What an operator makes of two binary numbers. -/
def ofBinaries (op : BinaryOp) (x y : Binary64) : Option Result :=
  match op with
  | .add => some (.ok (.float (x.add y)))
  | .subtract => some (.ok (.float (x.sub y)))
  | .multiply => some (.ok (.float (x.mul y)))
  | .divide => some <|
    if y.isZero then .error (.divisionByZero "float division by zero") else .ok (.float (x.div y))
  | .floorDivide => some <|
    if y.isZero then .error (.divisionByZero "float floor division by zero")
    else .ok (.float (x.floorQuotient y))
  | .remainder => some <|
    if y.isZero then .error (.divisionByZero "float modulo") else .ok (.float (x.remainder y))
  | .power => some <| match x.power y with
    | .number z => .ok (.float z)
    | .pole => .error (.divisionByZero "0.0 cannot be raised to a negative power")
    | .tooLarge => .error (.overflow "(34, 'Numerical result out of range')")
    | .notReal => beyond op
  | _ => none

def ofComplexes (op : BinaryOp) (y z : Complex) : Option Result :=
  match op with
  | .add => some (.ok (.complex ⟨y.re.add z.re, y.im.add z.im⟩))
  | .subtract => some (.ok (.complex ⟨y.re.sub z.re, y.im.sub z.im⟩))
  | .multiply => some (.ok (.complex (y.mul z)))
  | .divide => some <| match y.quotient? z with
    | some x => .ok (.complex x)
    | none => .error (.divisionByZero "complex division by zero")
  | .power => some <| match z.re.whole? with
    | some n =>
      if !z.im.isZero || 100 < n.natAbs then ofPole
      else match y.wholePower? n with
        | some x => .ok (.complex x)
        | none => .error (.divisionByZero "0.0 to a negative or complex power")
    | none => ofPole
  | _ => none
where
  /-- A power that is no whole one, as far as it is worked out: one of zero. -/
  ofPole : Result :=
    if !(y.re.isZero && y.im.isZero) then beyond op
    else if !z.im.isZero || z.re.isNegative then
      .error (.divisionByZero "0.0 to a negative or complex power")
    else .ok (.complex ⟨.zero false, .zero false⟩)

def ofRatios (op : BinaryOp) (p q : Rat) : Option Result :=
  match op with
  | .add => some (.ok (.ratio (p + q)))
  | .subtract => some (.ok (.ratio (p - q)))
  | .multiply => some (.ok (.ratio (p * q)))
  | .divide => some <|
    if q.num = 0 then
      .error (.divisionByZero ("Fraction(" ++ .ofList (Whole.write p.num) ++ ", 0)"))
    else .ok (.ratio (p / q))
  | .floorDivide => some <|
    if q.num = 0 then .error (.divisionByZero "integer division or modulo by zero")
    else .ok (.int (p / q).floor)
  | .remainder => some <|
    if q.num = 0 then .error (.divisionByZero "integer modulo by zero")
    else .ok (.ratio (p - q * (p / q).floor))
  | .power => some <|
    if q.den != 1 || 4096 < q.num.natAbs then beyond op
    else if 0 ≤ q.num then .ok (.ratio (wholePower p q.num.natAbs))
    else if p.num = 0 then .error (.divisionByZero "Fraction(1, 0)")
    else .ok (.ratio (1 / wholePower p q.num.natAbs))
  | _ => none
where
  /-- A whole power. -/
  wholePower (p : Rat) (n : Nat) : Rat := mkRat (Int.pow p.num n) (Nat.pow p.den n)

def keptDecimal (n : Int) (e : Int) : Result := .ok (.decimal (.rounded (n < 0) n.natAbs e))

/-- What an operator makes of two finite decimal numbers. -/
def ofFiniteDecimals (op : BinaryOp) (s : Bool) (m : Nat) (e : Int) (t : Bool) (n : Nat) (f : Int) :
    Option Result :=
  let undefined : Option Result := some (.error .undefinedOperation)
  let pole : Option Result := some <|
    if m = 0 then .error .undefinedOperation
    else .error (.foreign "DivisionByZero" "[<class 'decimal.DivisionByZero'>]")
  let whole? (pick : Decimal × Decimal → Decimal) : Option Result := some <|
    if 4000 < (e - f).natAbs then beyond op
    else match Decimal.divided? s m e t n f with
      | some parts => .ok (.decimal (pick parts))
      | none => .error .undefinedOperation
  match op with
  | .add | .subtract => some <| match Decimal.sum? s m e (if op = .add then t else !t) n f with
    | some d => .ok (.decimal d)
    | none => beyond op
  | .multiply => some (.ok (.decimal (.rounded (s != t) (m * n) (e + f))))
  | .divide => if n = 0 then pole else some (.ok (.decimal (.quotient s m e t n f)))
  | .floorDivide => if n = 0 then pole else whole? Prod.fst
  | .remainder => if n = 0 then undefined else whole? Prod.snd
  | .power =>
    if f < 0 || 3 < f then some (beyond op)
    else
      let k := n * tenTo f.toNat
      if t || 512 < k || (m = 0 && k = 0) then some (beyond op)
      else if 28 < Decimal.size (Nat.pow m k) then some (beyond op)
      else some (.ok (.decimal (.finite (s && k % 2 == 1) (Nat.pow m k) (e * k))))
  | _ => none

/-- The exponent of the zero that a number divided by an infinite one is. -/
def leastExponent : Int := -1000026

/-- What an operator of arithmetic makes of two decimal numbers of which one is infinite or no
number. -/
def ofSpecialDecimals (op : BinaryOp) (c d : Decimal) : Result :=
  let undefined : Result := .error .undefinedOperation
  let number (d : Decimal) : Result := .ok (.decimal d)
  match op, c, d with
  | _, .nan _ true _, _ | _, _, .nan _ true _ => undefined
  | _, .nan s _ n, _ | _, _, .nan s _ n => number (.nan s false n)
  | .add, .infinite s, .infinite t => if s = t then number (.infinite s) else undefined
  | .subtract, .infinite s, .infinite t => if s = t then undefined else number (.infinite s)
  | .add, .infinite s, _ | .subtract, .infinite s, _ | .add, _, .infinite s => number (.infinite s)
  | .subtract, _, .infinite t => number (.infinite !t)
  | .multiply, .infinite s, .infinite t => number (.infinite (s != t))
  | .multiply, .infinite s, .finite t n _ | .multiply, .finite t n _, .infinite s =>
    if n = 0 then undefined else number (.infinite (s != t))
  | .remainder, .infinite _, _ => undefined
  | .remainder, .finite s m e, _ => number (.rounded s m e)
  | .power, _, _ => beyond op
  | _, .infinite _, .infinite _ => undefined
  | _, .infinite s, .finite t _ _ => number (.infinite (s != t))
  | op, .finite s _ _, .infinite t =>
    number (.finite (s != t) 0 (if op = .divide then leastExponent else 0))
  | op, _, _ => beyond op

def ofDecimals (op : BinaryOp) (c d : Decimal) : Option Result :=
  match c, d with
  | .finite s m e, .finite t n f => ofFiniteDecimals op s m e t n f
  | c, d => (ofFiniteDecimals op false 1 0 false 1 0).map fun _ ↦ ofSpecialDecimals op c d

def ofNumbers (op : BinaryOp) (v w : Value) : Option Result :=
  match v, w with
  | .bool a, .bool b => match op with
    | .or => some (.ok (.bool (a || b)))
    | .and => some (.ok (.bool (a && b)))
    | .xor => some (.ok (.bool (a != b)))
    | op => ofWholes op (if a then 1 else 0) (if b then 1 else 0)
  | v, w =>
    match v.whole?, w.whole? with
    | some a, some b => ofWholes op a b
    | _, _ =>
      match v.decimal?, w.decimal? with
      | some c, some d => ofDecimals op c d
      | _, _ => match v.ratio?, w.ratio? with
        | some p, some q => ofRatios op p q
        | _, _ => match v.binary?, w.binary? with
          | some x, some y => ofBinaries op x y
          | _, _ => match v.complex?, w.complex? with
            | some y, some z => ofComplexes op y z
            | _, _ => none

/-! ## Texts and rows of octets -/

/-- A list repeated; a count below one leaves nothing. -/
def repeated {α : Type} (n : Int) (xs : List α) : List α := (List.replicate n.toNat xs).flatten

def combine (op : BinaryOp) (v w : Value) : Option Result :=
  match op, v, w with
  | .add, .text s, .text t | .add, .text s, .code _ t _ | .add, .code _ s _, .text t
  | .add, .code _ s _, .code _ t _ => some (.ok (.text (s ++ t)))
  | .add, .text _, w | .add, .code .., w => some (.error (.wrongType
      ("can only concatenate str (not \"" ++ w.family ++ "\") to str")))
  | .add, .bytes a, .bytes b => some (.ok (.bytes (a ++ b)))
  | .add, .bytes _, w => some (.error (.wrongType ("can't concat " ++ w.family ++ " to bytes")))
  | .multiply, v, w =>
    let times (n : Int) : Value → Option Result
      | .text s | .code _ s _ => some (.ok (.text (.ofList (repeated n s.toList))))
      | .bytes a => some (.ok (.bytes (repeated n a)))
      | _ => none
    match v.whole?, w.whole? with
    | some n, none => times n w <|> ofNumbers op v w
    | none, some n => times n v <|> ofNumbers op v w
    | _, _ => ofNumbers op v w
  | .remainder, .text _, _ | .remainder, .code .., _ | .remainder, .bytes _, _ => some (beyond op)
  | op, v, w => ofNumbers op v w

def applyUnary (op : UnaryOp) (v : Value) : Option Result :=
  match op, v with
  | .not, v => some (.ok (.bool !v.isTrue))
  | .plus, .float x => some (.ok (.float x))
  | .minus, .float x => some (.ok (.float x.neg))
  | .plus, .complex z => some (.ok (.complex z))
  | .minus, .complex z => some (.ok (.complex ⟨z.re.neg, z.im.neg⟩))
  | .plus, .ratio q => some (.ok (.ratio q))
  | .minus, .ratio q => some (.ok (.ratio (-q)))
  | .plus, .decimal (.finite s c e) => some (keptDecimal (Numeral.signed s c) e)
  | .minus, .decimal (.finite s c e) => some (keptDecimal (Numeral.signed (!s) c) e)
  | .plus, .decimal (.infinite s) => some (.ok (.decimal (.infinite s)))
  | .minus, .decimal (.infinite s) => some (.ok (.decimal (.infinite !s)))
  | .plus, .decimal (.nan s isSignaling n) | .minus, .decimal (.nan s isSignaling n) =>
    some (if isSignaling then .error .undefinedOperation else .ok (.decimal (.nan s false n)))
  | op, v => v.whole?.map fun n ↦ match op with
    | .minus => .ok (.int (-n))
    | .invert => .ok (.int (-n - 1))
    | _ => .ok (.int n)

/-! ## Order -/

/-- The ratio that a finite number is equal to; a decimal number far from one has none here. -/
def rational? : Value → Option Rat
  | .float (.finite s m e) =>
    let n := Numeral.signed s m
    some (if 0 ≤ e then mkRat (n * twoTo e.toNat) 1 else mkRat n (twoTo e.natAbs))
  | .decimal (.finite s c e) =>
    let n := Numeral.signed s c
    if 5000 < e.natAbs then none
    else some (if 0 ≤ e then mkRat (n * tenTo e.toNat) 1 else mkRat n (tenTo e.natAbs))
  | v => v.ratio?

/-- The binary number that a number is made into. A complex one has none, like all that are no
numbers. -/
def toBinary? (v : Value) : Option (Except Fault Binary64) :=
  match v with
  | .float x => some (.ok x)
  | .decimal (.finite s c e) =>
    some (.ok ((Binary64.read (Decimal.scientific (.finite s c e))).getD (.zero s)))
  | .decimal (.infinite s) => some (.ok (.infinite s))
  | .decimal (.nan _ isSignaling _) => some <|
    if isSignaling then .error (.badValue "cannot convert signaling NaN to float") else .ok .nan
  | v => v.ratio?.map fun (q : Rat) ↦
    if q = 0 then .ok (.zero false)
    else match Binary64.ofFraction (q < 0) q.num.natAbs q.den with
      | .infinite _ => .error (.overflow "number too large to convert to float")
      | x => .ok x

def dayKey (d : Date) : Nat := (d.year * 16 + d.month) * 32 + d.day

/-- How two moments compare: by what their clocks show, or in universal time if both are known to be
ahead of it by some time. -/
def orderMoments (m n : Moment) : Except Fault (Option Ordering) :=
  let shown (m : Moment) (ahead : Int) : Int :=
    (dayKey m.date : Int) * 86400000000 + m.time.micros - ahead
  match m.offset, n.offset with
  | none, none => .ok (some (compare (shown m 0) (shown n 0)))
  | some o, some p =>
    if o.micros == p.micros then .ok (some (compare (shown m 0) (shown n 0)))
      else .error (.unsupported "<")
  | _, _ => .error (.wrongType "can't compare offset-naive and offset-aware datetimes")

/-- How two values of ordered classes compare; the inner `none` for a not-a-number. -/
def order? (v w : Value) : Option (Except Fault (Option Ordering)) :=
  let isOrdered : Value → Bool
    | .complex _ => false
    | v => v.isNumber
  let isDecimal : Value → Bool
    | .decimal _ => true
    | _ => false
  let infinite? : Value → Option Bool
    | .float (.infinite s) | .decimal (.infinite s) => some s
    | _ => none
  match v.text?, w.text?, v, w with
  | some s, some t, _, _ => some (.ok (some (compare s t)))
  | _, _, .date d, .date e => some (.ok (some (compare (dayKey d) (dayKey e))))
  | _, _, .date _, .moment _ | _, _, .moment _, .date _ =>
    some (.error (.wrongType "can't compare datetime.datetime to datetime.date"))
  | _, _, .moment m, .moment n => some (orderMoments m n)
  | _, _, .bytes a, .bytes b => some (.ok (some (compare (a.map UInt8.toNat) (b.map UInt8.toNat))))
  | _, _, v, w =>
    if !(isOrdered v && isOrdered w) then none
    else some <|
      if v.magnitude?.isNone || w.magnitude?.isNone then
        if isDecimal v || isDecimal w then .error .undefinedOperation else .ok none
      else match infinite? v, infinite? w with
        | some s, some t => .ok (some (if s == t then .eq else if s then .lt else .gt))
        | some s, none => .ok (some (if s then .lt else .gt))
        | none, some t => .ok (some (if t then .gt else .lt))
        | none, none => match v.rational?, w.rational? with
          | some p, some q => .ok (some (if p < q then .lt else if p = q then .eq else .gt))
          | _, _ => .error (.unsupported "<")

mutual

/-- How two values compare in order, or why they do not; `mark` is the comparison in messages. -/
def order (mark : String) : Value → Value → Except Fault (Option Ordering)
  | .tuple xs, .tuple ys | .list xs, .list ys => orderAll mark xs ys
  | v, w => match order? v w with
    | some o => o
    | none =>
      .error (.wrongType ("'" ++ mark ++ "' not supported between instances of '" ++ v.family ++
        "' and '" ++ w.family ++ "'"))

/-- How two rows of values compare in order: by their first values that are unlike. -/
def orderAll (mark : String) : List Value → List Value → Except Fault (Option Ordering)
  | [], [] => .ok (some .eq)
  | [], _ :: _ => .ok (some .lt)
  | _ :: _, [] => .ok (some .gt)
  | x :: xs, y :: ys => if x.equals y then orderAll mark xs ys else order mark x y

end

end Value

end TypedSearch
