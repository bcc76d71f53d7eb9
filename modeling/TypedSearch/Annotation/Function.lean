import TypedSearch.Annotation.Layout
import TypedSearch.Annotation.Making

/-!
# What functions make

What functions that need no declaration make of arguments, and what the methods of a text make of
it.

## What is covered

The functions here answer for the things that annotations can hold. The hash of a text, the identity
of a thing and lists of its names are not worked out: asking for them fails under a class of faults
of its own.
-/

namespace TypedSearch.Declared

open Text

/-! ## Functions -/

def lengthOf (t : Declared) : Except Fault Int :=
  match t.series?, t with
  | some (_, ts), _ => .ok ts.length
  | none, .constant v => match v.length? with
    | some n => .ok n
    | none => misuse ("object of type '" ++ v.family ++ "' has no len()")
  | none, .row .set ts | none, .row .frozenset ts | none, .row (.view _) ts => .ok ts.length
  | none, .row .dict ts => .ok (keysOf ts).length
  | none, .row .range ts => .ok (((countedBy? ts).map fun c ↦ c.2.1).getD 0)
  | none, .enumeration e => .ok e.members.length
  | none, t => misuse ("object of type '" ++ t.family ++ "' has no len()")

def isCallable : Declared → Bool
  | .reader r => r.family != "module"
  | .special _ | .container .. | .applied .. | .appliedOther .. | .classVar _ | .literal _
  | .union .brackets _ => true
  | t => t.isClass

/-- The number of a whole number by which tables find it. -/
def wholeHash (n : Int) : Int :=
  let m := Numeral.signed (n < 0) (n.natAbs % (twoTo 61 - 1))
  if m = -1 then -2 else m

/-- The number of a number by which tables find it: that of its numerator divided by its denominator
among the whole numbers below a prime. -/
def numberHash? (v : Value) : Option Int :=
  match v with
  | .float (.infinite s) => some (if s then -314159 else 314159)
  | v => do
    let q ← v.rational?
    let p := twoTo 61 - 1
    let inverse := powerBelow p 62 1 (q.den % p) (p - 2)
    wholeHash (Numeral.signed (q.num < 0) (q.num.natAbs % p * inverse % p))
where
  /-- A power below a modulus, times `made`, by repeated squaring. -/
  powerBelow (p : Nat) : Nat → Nat → Nat → Nat → Nat
    | 0, made, _, _ => made
    | fuel + 1, made, x, n =>
      powerBelow p fuel (if n % 2 = 1 then made * x % p else made) (x * x % p) (n / 2)

/-- The whole number nearest to a ratio; of two the even one. -/
def roundedHalfEven (q : Rat) : Int :=
  let n := q.num.fdiv q.den
  let twice := 2 * (q.num.fmod q.den)
  if twice < q.den then n else if (q.den : Int) < twice then n + 1 else if n % 2 = 0 then n
    else n + 1

/-- What a function of one argument makes of it, if the function is worked out here. -/
def applyFunction? (name : String) (t : Declared) : Option (Except Fault Declared) :=
  let whole (f : Int → Except Fault Declared) : Option (Except Fault Declared) :=
    some (wholeOf t >>= f)
  let items (f : List Declared → Except Fault Declared) : Option (Except Fault Declared) :=
    some (elements t >>= f)
  let truth (b : Bool) : Except Fault Declared := .ok (.constant (.bool b))
  match name with
  | "len" => some ((lengthOf t).map fun n ↦ .constant (.int n))
  | "repr" => some (.ok (ofText t.inspect))
  | "ascii" => some (.ok (ofText (asciiOnly t.inspect)))
  | "callable" => some (truth t.isCallable)
  | "any" => items fun ts ↦ truth (ts.any isTrue)
  | "all" => items fun ts ↦ truth (ts.all isTrue)
  | "abs" => match t with
    | .constant v => some <| match v.whole?, v with
      | some n, _ => .ok (.constant (.int n.natAbs))
      | none, .float x => .ok (.constant (.float x.magnitude))
      | none, .decimal (.finite _ c e) => .ok (.constant (.decimal (.rounded false c e)))
      | none, .ratio q => .ok (.constant (.ratio (if q < 0 then -q else q)))
      | none, .complex z => .ok (.constant (.float (z.re.hypotenuse z.im)))
      | none, .decimal (.infinite _) => .ok (.constant (.decimal (.infinite false)))
      | none, .decimal (.nan s isSignaling n) =>
        if isSignaling then .error .undefinedOperation
          else .ok (.constant (.decimal (.nan s false n)))
      | none, _ => misuse ("bad operand type for abs(): '" ++ v.family ++ "'")
    | t => some (misuse ("bad operand type for abs(): '" ++ t.family ++ "'"))
  | "chr" => whole fun n ↦
      if n < 0 || 0x110000 ≤ n then .error (.badValue "chr() arg not in range(0x110000)")
      else if n.toNat.isValidChar then .ok (ofText (.singleton (Char.ofNat n.toNat)))
      else .error (.unsupported "chr")
  | "ord" => some <| match t with
    | .constant (.text s) => match s.toList with
      | [c] => .ok (.constant (.int c.toNat))
      | cs => misuse ("ord() expected a character, but string of length " ++ toString cs.length ++
          " found")
    | .constant (.bytes [b]) => .ok (.constant (.int b.toNat))
    | .constant (.bytes bs) => misuse
        ("ord() expected a character, but string of length " ++ toString bs.length ++ " found")
    | t => misuse ("ord() expected string of length 1, but " ++ t.family ++ " found")
  | "hash" => match t.keyFault?, t with
    | some message, _ => some (misuse message)
    | none, .constant v => (numberHash? v).map fun n ↦ .ok (.constant (.int n))
    | none, _ => none
  | "hex" => whole fun n ↦ .ok (ofText (basedText 'x' 16 n))
  | "oct" => whole fun n ↦ .ok (ofText (basedText 'o' 8 n))
  | "bin" => whole fun n ↦ .ok (ofText (basedText 'b' 2 n))
  | _ => none

/-- The best of some things by what stands before each of them: a later one is better if it compares
so with the best one before it. -/
def best (better : Annotation.Comparison) :
    List (Declared × Declared) → Except Fault (Option Declared)
  | [] => .ok none
  | t :: ts => do
    let found ← ts.foldlM (fun kept u ↦ do return if ← compares better u.1 kept.1 then u
      else kept) t
    return some found.2

/-- What `max` and `min` make of things, each behind what it is compared by. -/
def extremeOf (name : String) (ts : List (Declared × Declared)) (substitute : Option Declared) :
    Except Fault Declared := do
  match ← best (if name == "max" then Annotation.Comparison.greater else .less) ts, substitute with
  | some t, _ | none, some t => return t
  | none, none => .error (.badValue (name ++ "() arg is an empty sequence"))

/-- What `max` and `min` look through: their arguments, or the elements of the only one. -/
def candidatesOf (name : String) (args : List Declared) : Except Fault (List Declared) :=
  match args with
  | [] => misuse (name ++ " expected at least 1 argument, got 0")
  | [t] => elements t
  | ts => .ok ts

def sumFrom (first : Declared) (ts : List Declared) : Except Fault Declared :=
  match first with
  | .constant (.text _) | .constant (.code ..) =>
    misuse "sum() can't sum strings [use ''.join(seq) instead]"
  | .constant (.bytes _) => misuse "sum() can't sum bytes [use b''.join(seq) instead]"
  | first => ts.foldlM join first

/-- Is a class among those that another one builds on, or that one itself, where that is easily
told? -/
def buildsOn? (own c : Declared) : Option Bool :=
  if own == c || c == .base .object then some true
  else match own.ancestors?, own with
    | some ts, _ => some (ts.contains c)
    | none, .textual _ => some (c == .base .text)
    | none, .enumeration _ => some false
    | none, .document _ => match c with
      | .document _ => none
      | _ => some false
    | none, .other _ => if (exceptionClasses.any (·.2 == c)) then none else some false
    | none, _ => none

mutual

/-- Is a class one of those that a thing stands for: a class, a tuple of such things, or a union?
The messages name the function that asks. -/
def isWithin? (asker wanted : String) (own : Declared) : Declared → Option (Except Fault Bool)
  | .row .tuple cs | .union _ cs => isWithinAny? asker wanted own cs
  | .constant (.tuple []) => some (.ok false)
  | .container f .alias => (buildsOn? own (.container f .plain)).map .ok
  | .applied _ .plain _ | .appliedOther .. =>
    some (misuse (asker ++ "() argument 2 cannot be a parameterized generic"))
  | .applied _ .alias _ =>
    some (misuse "Subscripted generics cannot be used with class and instance checks")
  | .special f => some (misuse (f.full ++ " cannot be used with " ++ asker ++ "()"))
  | .base .any =>
    if asker == "isinstance" then some (misuse "typing.Any cannot be used with isinstance()")
    else (buildsOn? own (.base .any)).map .ok
  | c =>
    if c.isClass then (buildsOn? own c).map .ok
    else some (misuse (asker ++ "() arg 2 must be a " ++ wanted))

/-- Is a class one of those that some things stand for? The first that it is settles it. -/
def isWithinAny? (asker wanted : String) (own : Declared) :
    List Declared → Option (Except Fault Bool)
  | [] => some (.ok false)
  | c :: cs => do
    match ← isWithin? asker wanted own c with
    | .ok false => isWithinAny? asker wanted own cs
    | x => return x

end

/-- Refuses a thing that is no class as one that builds on others, which is noticed as soon as one
of them is looked at. -/
def isBelow : Declared → Except Fault Declared
  | .row .tuple (c :: cs) =>
    if c == .constant (.tuple []) then isBelow (.row .tuple cs) else isBelow c
  | .row .tuple [] => .ok (.constant (.bool false))
  | .constant (.tuple vs) =>
    if vs.all (· == .tuple []) then .ok (.constant (.bool false))
    else misuse "issubclass() arg 1 must be a class"
  | .applied _ .plain _ | .appliedOther .. =>
    misuse "issubclass() argument 2 cannot be a parameterized generic"
  | .applied _ .alias _ =>
    misuse "Subscripted generics cannot be used with class and instance checks"
  | .special f => misuse (f.full ++ " cannot be used with issubclass()")
  | _ => misuse "issubclass() arg 1 must be a class"

/-- The quotient of two numbers, down to a whole number, with the remainder that goes with it. -/
def dividedBy (v w : Value) : Except Fault Declared :=
  let isDecimal (v : Value) : Bool := v.whole?.isNone && v.decimal?.isSome
  if (isDecimal v || isDecimal w) && w.rational? == some 0 then .error .undefinedOperation
  else match Value.combine .floorDivide v w, Value.combine .remainder v w, w.binary? with
  | some q, some r, y => do
    if (v.whole?.isNone || w.whole?.isNone) && y.any Binary64.isZero then
      .error (.divisionByZero "float divmod()")
    return rowOf .tuple [.constant (← q), .constant (← r)]
  | _, _, _ => misuse ("unsupported operand type(s) for divmod(): '" ++ v.family ++ "' and '" ++
      w.family ++ "'")

/-- A number rounded to some places behind the point, or before it if negative; of two the even
one. -/
def roundedTo (v : Value) (places : Int) : Except Fault Declared :=
  let scale := Layout.powerOfTen (max (-400) (min 400 places))
  let near (q : Rat) : Rat := mkRat (roundedHalfEven (q * scale)) 1 / scale
  match v.whole?, v, v.rational? with
  | some n, _, _ => .ok (.constant (.int (if 0 ≤ places then n else (near (mkRat n 1)).num)))
  | none, .float x, some q => .ok <| .constant <| .float <|
    if (near q).num = 0 then .zero x.hasMinus
      else .ofFraction x.hasMinus (near q).num.natAbs (near q).den
  | none, .float x, none => .ok (.constant (.float x))
  | none, .decimal (.finite s _ _), some q => .ok <| .constant <| .decimal <|
    .finite s (roundedHalfEven (q * scale)).natAbs (-places)
  | none, .ratio q, _ => .ok (.constant (.ratio (near q)))
  | none, .decimal (.nan s false n), _ => .ok (.constant (.decimal (.nan s false n)))
  | none, .decimal _, none => .error .undefinedOperation
  | none, v, _ =>
    if v.isNumber && v.complex?.isNone then .error (.unsupported "round")
    else misuse ("type " ++ v.family ++ " doesn't define __round__ method")

/-- What a function of two or more arguments makes of them, if it is worked out here. -/
def applyTogether? (known : String → Option Enumeration) (name : String) (args : List Declared) :
    Option (Except Fault Declared) :=
  match name, args with
  | "max", ts | "min", ts => some do
    extremeOf name ((← candidatesOf name ts).map fun t ↦ (t, t)) none
  | "sorted", [t] => some (do return rowOf .list (← sortedRow (← elements t)))
  | "sum", [t] => some (do sumFrom (.constant (.int 0)) (← elements t))
  | "sum", [t, first] => some (do sumFrom first (← elements t))
  | "pow", [.constant v, .constant w] => some (combineConstants .power v w)
  | "pow", [t, u] => some (unsupportedOperands .power t u)
  | "divmod", [.constant v, .constant w] => some (dividedBy v w)
  | "divmod", [t, u] => some <| misuse
      ("unsupported operand type(s) for divmod(): '" ++ t.family ++ "' and '" ++ u.family ++ "'")
  | "divmod", ts => some (misuse ("divmod expected 2 arguments, got " ++ toString ts.length))
  | "round", [.constant v] | "round", [.constant v, .constant .null] =>
    match v.whole?, v.rational?, v with
    | some n, _, _ => some (.ok (.constant (.int n)))
    | none, some q, _ => some (.ok (.constant (.int (roundedHalfEven q))))
    | none, none, .float .nan => some (.error (.badValue "cannot convert float NaN to integer"))
    | none, none, .float _ => some (.error (.overflow "cannot convert float infinity to integer"))
    | none, none, .decimal (.nan ..) => some (.error (.badValue "cannot convert NaN to integer"))
    | none, none, .decimal (.infinite _) =>
      some (.error (.overflow "cannot convert Infinity to integer"))
    | none, none, _ =>
      if v.isNumber && v.complex?.isNone then none
      else some (misuse ("type " ++ v.family ++ " doesn't define __round__ method"))
  | "round", [.constant v, n] => some do roundedTo v (← wholeOf n)
  | "round", t :: _ => some (misuse ("type " ++ t.family ++ " doesn't define __round__ method"))
  | "format", [t] => some (t.display.map ofText)
  | "format", [t, .constant (.text layout)] => some ((t.laidOut layout).map ofText)
  | "format", [_, u] => some (misuse ("format() argument 2 must be str, not " ++ u.argumentFamily))
  | "format", ts => some (wrongCount name 1 2 ts.length)
  | "issubclass", [t, c] =>
    if t.isClass then (isWithin? name "class, a tuple of classes, or a union" t c).map fun x ↦
      x.map fun b ↦ .constant (.bool b)
    else some (isBelow c)
  | "isinstance", [t, c] => match classOf known t with
    | .ok own => (isWithin? name "type, a tuple of types, or a union" own c).map fun x ↦
        x.map fun b ↦ .constant (.bool b)
    | .error _ => none
  | "issubclass", ts | "isinstance", ts =>
    some (misuse (name ++ " expected 2 arguments, got " ++ toString ts.length))
  | "pow", [.constant v, .constant w, .constant m] => match v.whole?, w.whole?, m.whole? with
    | some a, some b, some m =>
      if m = 0 then some (.error (.badValue "pow() 3rd argument cannot be 0"))
      else if 0 ≤ b && b < 65536 then some (.ok (.constant (.int ((Int.pow a b.toNat).fmod m))))
      else none
    | _, _, _ => none
  | _, _ => none

/-- What looking for an attribute by its name makes of arguments. -/
def callLookUp (known : String → Option Enumeration) (name : String) (args : List Declared) :
    Except Fault Declared :=
  let isPresence := name == "hasattr"
  match args with
  | [] | [_] =>
    misuse (name ++ " expected " ++ (if isPresence then "2" else "at least 2") ++
      " arguments, got " ++ toString args.length)
  | [t, .constant (.text s)] =>
    if isPresence then match memberOf known t s with
      | .ok _ => .ok (.constant (.bool true))
      | .error (.noAttribute _) => .ok (.constant (.bool false))
      | .error f => .error f
    else memberOf known t s
  | [_, s] => misuse ("attribute name must be string, not '" ++ s.family ++ "'")
  | [t, .constant (.text s), substitute] =>
    if isPresence then misuse "hasattr expected 2 arguments, got 3"
    else match memberOf known t s with
      | .error (.noAttribute _) => .ok substitute
      | x => x
  | _ => .error (.unsupported name)

def callFunction (known : String → Option Enumeration) (name : String) (args : List Declared) :
    Except Fault Declared :=
  if name == "getattr" || name == "hasattr" then callLookUp known name args
  else match applyTogether? known name args, applyFunction? name (args.headD .rest), args with
    | some x, _, _ | none, some x, [_] => x
    | none, some _, ts =>
      misuse (name ++ "() takes exactly one argument (" ++ toString ts.length ++ " given)")
    | none, none, _ => .error (.unsupported name)

end TypedSearch.Declared
