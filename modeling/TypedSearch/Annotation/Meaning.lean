import TypedSearch.Annotation.Binding
import TypedSearch.Annotation.Slot

/-!
# The meaning of annotations

What an expression stands for in a scope. What calls come to is left to a `Runner`, so that the
meaning of an expression is settled by the meanings of its parts alone.

## What is covered

Expressions are evaluated from left to right, each part once. What an evaluation does outside of its
own `Memory` is not carried: what it prints, and the names that it gives to its module for good.
-/

namespace TypedSearch.Annotation

open Declared (Building)

/-- What calls come to. -/
structure Runner where
  /-- The enumerations by their names. -/
  known : String → Option Enumeration
  /-- What a thing makes of arguments, of which some may be given by name. -/
  call : Declared → List Declared → List (String × Declared) → Building Declared
  /-- What a text stands for as an annotation in a scope. -/
  read : Scope → String → Building Declared

/-! ## Rows -/

/-- A dictionary with more keys and values by turns. -/
def dictOf (made : List Declared) : List Declared → Except Fault Declared
  | k :: v :: more => do
    k.checkKey
    dictOf (Declared.putPair k v made) more
  | _ => .ok (.row .dict made)

def rowOf (form : RowForm) (items : List Declared) : Except Fault Declared :=
  match form with
  | .dict => dictOf [] items
  | .set => do
    items.forM Declared.checkKey
    return .row .set (Declared.distinct items)
  | form => .ok (Declared.rowOf form items)

/-- Keys and values by turns with those that two stars before a thing spread. -/
def spreadPairs (made : List Declared) (t : Declared) : Except Fault (List Declared) :=
  match t with
  | .row .dict _ => Declared.putAll made t
  | t =>
    if t.isDictClass then Declared.misuse Declared.unboundKeys
    else Declared.misuse ("'" ++ t.family ++ "' object is not a mapping")

/-- What stands for a row with clauses in the name of a function inside it. -/
def gatheringName : RowForm → String
  | .list => "<listcomp>"
  | .set => "<setcomp>"
  | .dict => "<dictcomp>"
  | _ => "<genexpr>"

/-! ## Quoted texts -/

def converted (conversion : Option Conversion) (t : Declared) : Except Fault Declared :=
  let text (s : String) : Declared := .constant (.text s)
  match conversion with
  | none => .ok t
  | some .display => t.display.map text
  | some .inspect => .ok (text t.inspect)
  | some .ascii => .ok (text (Text.asciiOnly t.inspect))

/-- The text that things are, one after the other. -/
def joinedText (ts : List Declared) : String :=
  String.join (ts.map fun t ↦ match t with
    | .constant (.text s) => s
    | t => t.inspect)

/-! ## Calls -/

/-- Where a star among arguments stands: in the call itself if it is the only argument in order, or
else in the row of the arguments. -/
def starPlace (args : List Expr) (name : String) : String :=
  match args.filter fun e ↦ match e with
    | .keyword .. | .pairs _ => false
    | _ => true with
  | [.star _] => name ++ " argument"
  | _ => "Value"

/-- Does a thing, when it is called, need no more elements behind one? The next element is all that
is asked for, and the first that is true, or that is not, settles whether one is or all are. -/
def isEnough (t : Declared) : Declared → Bool :=
  match t.standardName with
  | "next" => fun _ ↦ true
  | "any" => Declared.isTrue
  | "all" => fun u ↦ !u.isTrue
  | _ => fun _ ↦ false

/-- The arguments by name with those that two stars before a thing spread; `name` is that of what is
called. -/
def spreadNamed (name : String) (made : List (String × Declared)) (t : Declared) :
    Except Fault (List (String × Declared)) :=
  match t with
  | .row .dict ts => go made ts
  | t =>
    if t.isDictClass then Declared.misuse Declared.unboundKeys
    else Declared.misuse (name ++ " argument after ** must be a mapping, not " ++ t.family)
where
  /-- The arguments by name with those of a dictionary. -/
  go (made : List (String × Declared)) : List Declared → Except Fault (List (String × Declared))
    | k :: v :: more => match k with
      | .constant (.text s) =>
        if (made.lookup s).isSome then
          Declared.misuse (name ++ " got multiple values for keyword argument '" ++ s ++ "'")
        else go (made ++ [(s, v)]) more
      | _ => Declared.misuse "keywords must be strings"
    | _ => .ok made

/-- What stands behind a point; a method of a thing's own is a function. -/
def memberOf (run : Runner) (t : Declared) (s : String) : Building Declared := do
  let held (owner : String) : Building Declared :=
    Building.hold ("built-in method " ++ s ++ " of " ++ owner ++ " object") s
      "builtin_function_or_method" (.method t s)
  match Declared.ownerOf? run.known t s with
  | some owner => held owner
  | none => match Declared.methodClass? run.known t s with
    | some c =>
      Building.hold ("built-in method " ++ s ++ " of type object") s "builtin_function_or_method"
        (.method c s)
    | none => match (Declared.reservedName? s).bind fun name ↦ Declared.slotOf? t name with
      | some slot => return slot
      | none =>
        if (Declared.reservedName? s).any fun name ↦ Declared.hasSlot run.known t name then
          held t.family
        else if (Declared.reservedName? s).any fun name ↦ Declared.lacksSlot run.known t name then
          throw (.noAttribute ("'" ++ t.family ++ "' object has no attribute '" ++ s ++ "'"))
        else Declared.plainMember run.known t s

def dictOfNames (names : List (String × Declared)) : Declared :=
  .row .dict
    (names.foldl (fun made n ↦ if (Declared.valueAt? (.constant (.text n.1)) made).isSome then made
      else made ++ [.constant (.text n.1), n.2]) [])

/-- The scope of a text whose names are those of dictionaries: first the second, then the first. -/
def scopeOf (scope : Scope) : List Declared → Building Scope
  | [] => return scope
  | [.row .dict far] => do
    let i ← Building.newFrame (Declared.textKeys far)
    return { Scope.empty with built := scope.built, outer := i, shared := i }
  | .row .dict far :: .row .dict near :: _ => do
    let i ← Building.newFrame (Declared.textKeys near)
    let j ← Building.newFrame (Declared.textKeys far)
    return { Scope.empty with built := scope.built, outer := i, shared := j }
  | .constant .null :: more => scopeOf scope more
  | t :: _ =>
    (Declared.misuse ("globals must be a dict, not " ++ t.family) : Except Fault Scope)

/-- What a thing makes of arguments in a scope, of which only the functions that look at the scope
take notice. -/
def callIn (run : Runner) (scope : Scope) (t : Declared) (args : List Declared)
    (named : List (String × Declared)) : Building Declared := do
  match t.standardName, args, named with
  | "locals", [], [] | "vars", [], [] => return dictOfNames (← Building.nearNames scope)
  | "globals", [], [] => return dictOfNames (← Building.farNames scope)
  | "eval", .constant (.text s) :: dicts, [] =>
    run.read (← scopeOf scope dicts) (.ofList (s.toList.dropWhile fun c ↦ c == ' ' || c == '\t'))
  | "exec", .constant (.text s) :: dicts, [] =>
    if (Expr.parse? s).isNone then throw (.unsupported "exec")
    let _ ← run.read (← scopeOf scope dicts) s
    return .constant .null
  | "eval", _ :: _, [] =>
    (Declared.misuse "eval() arg 1 must be a string, bytes or code object" : Except Fault Declared)
  | _, args, named => run.call t args named

/-! ## Expressions -/

mutual

def evaluate (run : Runner) (scope : Scope) : Expr → Building Declared
  | .name s => Building.lookUp scope s
  | .value v => return .constant v
  | .dots => return .rest
  | .pattern pieces => do
    return .constant (.text (joinedText (← evaluateAll run scope (fun _ ↦ false) "Value" pieces)))
  | .field e conversion layout => do
    let t ← evaluate run scope e
    let t ← (converted conversion t : Except Fault Declared)
    let pieces ← evaluateAll run scope (fun _ ↦ false) "Value" layout
    return .constant (.text (← (t.laidOut (joinedText pieces) : Except Fault String)))
  | .row .dict items => evaluateDict run scope [] [] items
  | .row form items => do
    let ts ← evaluateAll run scope (fun _ ↦ false) (if form == .set then "" else "Value") items
    rowOf form ts
  | .gather form g => do
    let i ← Building.newFrame (Building.unbound g.boundNames)
    let isLazy := gatheringName form == "<genexpr>"
    let (ts, _) ← gathered run scope (scope.inside i (gatheringName form)) i isLazy (fun _ ↦ false)
      #[] g
    rowOf form ts.toList
  | .function parameters substitutes body => do
    let ts ← evaluateAll run scope (fun _ ↦ false) "Value" substitutes
    Building.hold ("function " ++ scope.path ++ "<lambda>") "<lambda>" "function"
      (.written parameters (parameters.optional.zip ts) body scope)
  | .star e => do
    let t ← evaluate run scope e
    return .unpacked t
  | .pairs e | .keyword _ e => do
    let _ ← evaluate run scope e
    throw (.unsupported "**")
  | .given s e => do
    let t ← evaluate run scope e
    Building.give scope s t
    return t
  | .member e s => do
    let t ← evaluate run scope e
    memberOf run t s
  | .subscript e key => do
    let t ← evaluate run scope e
    Declared.subscript t (← evaluate run scope key)
  | .call (.member e s) args => do
    let t ← evaluate run scope e
    match Declared.ownerOf? run.known t s with
    | none =>
      let f ← memberOf run t s
      let name := ((Declared.methodClass? run.known t s).map (Declared.classMethodName · s)).getD
        f.callName
      let ts ← evaluateAll run scope (fun _ ↦ false) (starPlace args name) args
      let named ← evaluateNamed run scope name [] args
      callIn run scope f ts named
    | some owner =>
      let name := owner ++ "." ++ s ++ "()"
      let ts ← evaluateAll run scope (fun _ ↦ false) (starPlace args name) args
      let named ← evaluateNamed run scope name [] args
      let answer ← (Declared.callOwn run.known t s ts named : Except Fault Declared)
      match e, Declared.changed? t s ts named with
      | .name x, some u | .given x _, some u => Building.change scope x u
      | _, _ => pure ()
      return answer
  | .call e args => do
    let t ← evaluate run scope e
    let ts ← evaluateAll run scope (isEnough t) (starPlace args t.callName) args
    callIn run scope t ts (← evaluateNamed run scope t.callName [] args)
  | .unary op e => do
    let t ← evaluate run scope e
    Declared.applyUnary op t
  | .binary op a b => do
    let t ← evaluate run scope a
    Declared.combine op t (← evaluate run scope b)
  | .compare first comparisons others => do
    let t ← evaluate run scope first
    compareAll run scope t comparisons others
  | .both a b => do
    let t ← evaluate run scope a
    if t.isTrue then evaluate run scope b else return t
  | .either a b => do
    let t ← evaluate run scope a
    if t.isTrue then return t else evaluate run scope b
  | .choice condition yes no => do
    let t ← evaluate run scope condition
    if t.isTrue then evaluate run scope yes else evaluate run scope no

/-- What the items of a row, or the arguments of a call in order, stand for; a star spreads the
elements of what it stands before, and `place` is where it stands. Of elements that clauses give, no
more are wanted behind one that is enough. -/
def evaluateAll (run : Runner) (scope : Scope) (isEnough : Declared → Bool) (place : String) :
    List Expr → Building (List Declared)
  | [] => return []
  | .star e :: es => do
    let t ← evaluate run scope e
    let ts ← (t.spread place : Except Fault (List Declared))
    return ts ++ (← evaluateAll run scope isEnough place es)
  | .keyword .. :: es | .pairs _ :: es => evaluateAll run scope isEnough place es
  | .gather (.walk family) g :: es => do
    let i ← Building.newFrame (Building.unbound g.boundNames)
    let (ts, _) ← gathered run scope (scope.inside i "<genexpr>") i true isEnough #[] g
    return .row (.walk family) ts.toList :: (← evaluateAll run scope isEnough place es)
  | e :: es => do
    let t ← evaluate run scope e
    return t :: (← evaluateAll run scope isEnough place es)

/-- A dictionary of keys and values by turns and of pairs that are spread; those of `kept` are not
part of it yet. -/
def evaluateDict (run : Runner) (scope : Scope) (made kept : List Declared) :
    List Expr → Building Declared
  | [] => dictOf made kept
  | .pairs e :: es => do
    match ← (dictOf made kept : Except Fault Declared) with
    | .row _ made =>
      let t ← evaluate run scope e
      evaluateDict run scope (← (spreadPairs made t : Except Fault (List Declared))) [] es
    | t => return t
  | e :: es => do
    let t ← evaluate run scope e
    evaluateDict run scope made (kept ++ [t]) es

/-- What the arguments by name of a call stand for; `name` is that of what is called. -/
def evaluateNamed (run : Runner) (scope : Scope) (name : String) (made : List (String × Declared)) :
    List Expr → Building (List (String × Declared))
  | [] => return made
  | .keyword s e :: es => do
    let t ← evaluate run scope e
    if (made.lookup s).isSome then
      (Declared.misuse (name ++ " got multiple values for keyword argument '" ++ s ++ "'") :
        Except Fault Unit)
    evaluateNamed run scope name (made ++ [(s, t)]) es
  | .pairs e :: es => do
    let t ← evaluate run scope e
    evaluateNamed run scope name (← (spreadNamed name made t : Except Fault _)) es
  | _ :: es => evaluateNamed run scope name made es

/-- The items of a gathered row behind those that are there, and whether one of them is enough. The
first source is looked up in the scope around the row; `frame` is the frame of its names. Where
items are not looked for before they are wanted, one that is not found stands at the end. -/
def gathered (run : Runner) (around scope : Scope) (frame : Nat) (isLazy : Bool)
    (isEnough : Declared → Bool) (made : Array Declared) :
    Gathering → Building (Array Declared × Bool)
  | .items es => do
    let ts ← evaluateAll run scope (fun _ ↦ false) "Value" es
    return (made ++ ts.toArray, ts.any isEnough)
  | .each target source body => do
    let t ← evaluate run around source
    let ts ← (t.steps : Except Fault (List Declared))
    ts.foldlM (fun (found : Array Declared × Bool) u ↦ do
      if found.2 then return found
      let next : Building (Array Declared × Bool) := do
        if let some fault := u.failure? then throw fault
        Building.setNames frame (← (target.bindings u : Except Fault (List (String × Declared))))
        gathered run scope scope frame isLazy isEnough found.1 body
      if isLazy then tryCatch next fun fault ↦ return (found.1.push (.failing fault), true)
      else next) (made, false)
  | .given condition body => do
    let t ← evaluate run scope condition
    if t.isTrue then gathered run scope scope frame isLazy isEnough made body
      else return (made, false)

/-- Whether a row of comparisons holds, each between one thing and the next; the first that does not
settles it. -/
def compareAll (run : Runner) (scope : Scope) (t : Declared) :
    List Comparison → List Expr → Building Declared
  | c :: cs, e :: es => do
    let u ← evaluate run scope e
    let holds ← (Declared.compares c t u : Except Fault Bool)
    if holds && !es.isEmpty then compareAll run scope u cs es else return .constant (.bool holds)
  | _, _ => return .constant (.bool true)

end

end TypedSearch.Annotation
