import TypedSearch.Annotation.Function
import TypedSearch.Annotation.Method

/-!
# Calls in annotations

What the things that an annotation may stand for make of arguments, given in order or by name.
-/

namespace TypedSearch.Declared

open Text

def callName (t : Declared) : String :=
  match t with
  | .reader r =>
    if r.family == "function" then
      .ofList (((r.shown.toList.drop "<function ".length).takeWhile (· != ' '))) ++ "()"
    else if r.family == "method_descriptor" || r.family == "wrapper_descriptor" then
      match r.shown.splitOn "'" with
      | [_, name, _, owner, _] => ((owner.splitOn ".").getLast?).getD owner ++ "." ++ name ++ "()"
      | _ => r.label ++ "()"
    else r.label ++ "()"
  | .row (.walk "generator") _ => "<genexpr>()"
  | .container f s | .applied f s _ => f.full s ++ "()"
  | .special f => f.full ++ "()"
  | .literal _ => "typing.Literal()"
  | .classVar _ => "typing.ClassVar()"
  | .union .brackets members =>
    if members.length == 2 && members.contains null then "typing.Optional()" else "typing.Union()"
  | .appliedOther c _ => c.className.full ++ "()"
  | t => match t.className? with
    | some c => c.full ++ "()"
    | none => (t.display.toOption).getD t.inspect

/-! ## Calls -/

def call (known : String → Option Enumeration) (t : Declared) (args : List Declared) :
    Except Fault Declared :=
  match t with
  | .base b => callBase b args
  | .container f .plain | .applied f .plain _ => callContainer f args
  | .container f .alias | .applied f .alias _ =>
    misuse ("Type " ++ f.aliasName ++ " cannot be instantiated; use " ++ f.className.name ++
      "() instead")
  | .enumeration e => callEnumeration e args
  | .other c | .appliedOther c _ => callOther known c args
  | .document d => callDocument d args
  | .special f => misuse ("Cannot instantiate " ++ f.full)
  | .union .brackets _ => misuse "Cannot instantiate typing.Union"
  | .literal _ => misuse "Cannot instantiate typing.Literal"
  | .classVar _ => misuse "Cannot instantiate typing.ClassVar"
  | .reader r =>
    if r.family == "builtin_function_or_method" then callFunction known r.label args
    else if r.family == "module" then misuse "'module' object is not callable"
    else .error (.unsupported r.shown)
  | .textual c => .error (.unsupported c.name)
  | t => misuse ("'" ++ t.family ++ "' object is not callable")

/-! ## Arguments by name -/

/-- Refuses an argument whose name is none of those that `name` knows; the others are not worked
out. -/
def checkNames {α : Type} (name : String) (known : List String) (named : List (String × Declared)) :
    Except Fault α :=
  match named.find? fun n ↦ !known.contains n.1 with
  | some n => misuse ("'" ++ n.1 ++ "' is an invalid keyword argument for " ++ name)
  | none => .error (.unsupported name)

def momentNames : List String :=
  ["year", "month", "day", "hour", "minute", "second", "microsecond"]

/-- The parts of a moment by their names behind those given in order, as far as there is no gap
among those that have to be given. -/
def momentArguments (args : List Declared) (named : List (String × Declared)) : List Declared :=
  let behind := (momentNames.zipIdx.drop args.length).map fun p ↦
    match named.lookup p.1 with
    | some t => some t
    | none => if p.2 < 3 then none else some (.constant (.int 0))
  args ++ (behind.takeWhile Option.isSome).reduceOption

/-- The arguments that are called by `names`, in order, those given by name among them; what is left
out between them is as `standard` says. Refuses a name that is none of these, or one that is given
twice. -/
def inOrder (name : String) (names : List (String × Option Declared)) (args : List Declared)
    (named : List (String × Declared)) : Except Fault (List Declared) := do
  let known := names.map Prod.fst
  if let some n := named.find? fun n ↦ !known.contains n.1 then
    misuse ("'" ++ n.1 ++ "' is an invalid keyword argument for " ++ name ++ "()")
  if let some n := named.find? fun n ↦ (known.take args.length).contains n.1 then
    misuse ("argument for " ++ name ++ "() given by name ('" ++ n.1 ++ "') and position (" ++
      toString (((known.findIdx? (· == n.1)).getD 0) + 1) ++ ")")
  let last := (known.zipIdx.filter fun k ↦ (named.lookup k.1).isSome).foldl (fun _ k ↦ k.2 + 1)
    args.length
  let behind := (names.take last).drop args.length
  return args ++ behind.filterMap fun n ↦ named.lookup n.1 <|> n.2

/-- What a class of single values makes of arguments of which some are given by name. -/
def callBaseNamed (b : Base) (args : List Declared) (named : List (String × Declared)) :
    Except Fault Declared :=
  let name := b.className.name
  let encoding : List (String × Option Declared) := [("encoding", some (ofText "utf-8")),
    ("errors", none)]
  match b with
  | .bool | .float => misuse (name ++ "() takes no keyword arguments")
  | .int => match args, named with
    | [], [("base", _)] => misuse "int() missing string argument"
    | args, [("base", _)] =>
      do callBase .int (← inOrder name [("", none), ("base", none)] args named)
    | _, named => checkNames "int()" ["base"] named
  | .text => match args, named.lookup "object" with
    | [], none => do
      let _ ← inOrder name (("object", none) :: encoding) args named
      callBase .text []
    | args, _ => do callBase .text (← inOrder name (("object", none) :: encoding) args named)
  | .bytes => do callBase b (← inOrder name (("source", none) :: encoding) args named)
  | .bytearray => checkNames (name ++ "()") ["source", "encoding", "errors"] named
  | .decimal => match args, named with
    | [], [("value", t)] => callBase .decimal [t]
    | _, named => checkNames "this function" ["value", "context"] named
  | .moment =>
    let parts := momentArguments args named
    if parts.length < 3 then callBase .moment parts
    else if named.any fun n ↦ !(momentNames ++ ["tzinfo", "fold"]).contains n.1 then
      checkNames "this function" (momentNames ++ ["tzinfo", "fold"]) named
    else if named.any fun n ↦ !(momentNames.drop args.length).contains n.1 then
      .error (.unsupported "datetime")
    else callBase .moment parts
  | .date =>
    let parts := momentArguments args (named.filter fun n ↦ (momentNames.take 3).contains n.1)
    if named.any fun n ↦ !((momentNames.take 3).drop args.length).contains n.1 then
      .error (.unsupported "date")
    else callBase .date parts
  | .object | .null => callBase b (args ++ named.map Prod.snd)
  | .any => callBase .any args
  | .ratio => .error (.unsupported name)

/-- What a class beside the others makes of arguments of which some are given by name. -/
def callOtherNamed (c : OtherClass) (args : List Declared) (named : List (String × Declared)) :
    Except Fault Declared :=
  let name := c.className.name
  let refuse : Except Fault Declared := misuse (name ++ "() takes no keyword arguments")
  match c.making with
  | .exception _ =>
    if ["NameError", "AttributeError", "ImportError", "ModuleNotFoundError"].contains name then
      .error (.unsupported name)
    else refuse
  | .classOfText => if args.length == 1 then refuse else newClass args
  | .complexNumber => do
    let zero : Declared := .constant (.int 0)
    callOther (fun _ ↦ none) c (← inOrder name [("real", some zero), ("imag", some zero)] args
      named)
  | _ =>
    if ["slice", "range", "super", "map", "filter", "reversed"].contains name then refuse
    else match name with
      | "enumerate" => checkNames "enumerate()" ["iterable", "start"] named
      | "property" => checkNames "property()" ["fget", "fset", "fdel", "doc"] named
      | name => .error (.unsupported name)

def callDocumentNamed (d : DocumentClass) (named : List (String × Declared)) :
    Except Fault Declared :=
  let name := d.className.name
  if d.constructor.parameters.isEmpty then misuse (name ++ "() takes no arguments")
  else match named.find? fun n ↦ !d.constructor.parameters.any fun p ↦ p.name == n.1 with
    | some n =>
      if d.constructor.parameters.any fun p ↦ p.style == .keywords then .error (.unsupported name)
      else misuse (name ++ ".__init__() got an unexpected keyword argument '" ++ n.1 ++ "'")
    | none => .error (.unsupported name)

/-- The arguments by name that looking up the member of an enumeration knows. -/
def enumerationNames : List String :=
  ["value", "names", "module", "qualname", "type", "start", "boundary"]

def namingFunctions : List String :=
  ["__build_class__", "__import__", "compile", "exec", "eval", "max", "min", "open", "pow", "print",
    "round", "sorted", "sum", "input", "breakpoint"]

/-- What a thing makes of arguments of which some are given by name. -/
def callNamed (known : String → Option Enumeration) (t : Declared) (args : List Declared)
    (named : List (String × Declared)) : Except Fault Declared :=
  match t with
  | .base b => callBaseNamed b args named
  | .container .dict .plain | .applied .dict .plain _ => do
    match ← callContainer .dict args with
    | .row form ts => return .row form (named.foldl (fun made n ↦ putPair (ofText n.1) n.2 made) ts)
    | u => return u
  | .container .deque .plain | .applied .deque .plain _ => .error (.unsupported "deque")
  | .container f .plain | .applied f .plain _ =>
    if f.isAbstract then .error (.unsupported f.className.name)
    else misuse (f.className.name ++ "() takes no keyword arguments")
  | .enumeration e => match args, named with
    | [], [("value", u)] => callEnumeration e [u]
    | _, named =>
      match named.find? fun n ↦ !enumerationNames.contains n.1 with
      | some n => misuse ("EnumType.__call__() got an unexpected keyword argument '" ++ n.1 ++ "'")
      | none => .error (.unsupported e.className.name)
  | .other c | .appliedOther c _ => callOtherNamed c args named
  | .document d => callDocumentNamed d named
  | .reader r =>
    if r.family != "builtin_function_or_method" then .error (.unsupported r.shown)
    else if r.label == "print" then
      checkNames "print()" ["sep", "end", "file", "flush"] named
    else if namingFunctions.contains r.label then .error (.unsupported r.label)
    else misuse (r.label ++ "() takes no keyword arguments")
  | t => call known t args

/-! ## Methods of texts -/

/-- The arguments of a method of a text in order, those given by name among them. -/
def textArguments (method : String) (args : List Declared) (named : List (String × Declared)) :
    Except Fault (List Declared) :=
  let only (known : List String) : Except Fault Unit :=
    match named.find? fun n ↦ !known.contains n.1 with
    | some n => misuse ("'" ++ n.1 ++ "' is an invalid keyword argument for " ++ method ++ "()")
    | none => .ok ()
  let more (known : List (String × Declared)) : List Declared :=
    (known.drop args.length).map fun n ↦ (named.lookup n.1).getD n.2
  let nothing : Declared := .constant .null
  if named.isEmpty then .ok args
  else match method with
    | "split" | "rsplit" => do
      only ["sep", "maxsplit"]
      return args ++ more [("sep", nothing), ("maxsplit", .constant (.int (-1)))]
    | "encode" => do
      only ["encoding", "errors"]
      return args ++ more [("encoding", ofText "utf-8"), ("errors", ofText "strict")]
    | "splitlines" => do
      only ["keepends"]
      return args ++ more [("keepends", .constant (.bool false))]
    | "expandtabs" => do
      only ["tabsize"]
      return args ++ more [("tabsize", .constant (.int 8))]
    | _ => misuse ("str." ++ method ++ "() takes no keyword arguments")

def textKeys : List Declared → List (String × Declared)
  | .constant (.text s) :: v :: more => (s, v) :: textKeys more
  | _ :: _ :: more => textKeys more
  | _ => []

/-- What a method of texts makes of arguments, the first of which is the text. -/
def callTextMethod (method : String) (args : List Declared) (named : List (String × Declared)) :
    Except Fault Declared :=
  match args with
  | [] => misuse ("unbound method str." ++ method ++ "() needs an argument")
  | .constant (.text s) :: ts =>
    if method == "format" then (Template.fillBraces s ts named).map ofText
    else if method == "format_map" then match ts with
      | [.row .dict items] => (Template.fillBraces s [] (textKeys items)).map ofText
      | _ => .error (.unsupported method)
    else do
      let ts ← textArguments method ts named
      textMethod s method ts
  | t :: _ => misuse
      ("descriptor '" ++ method ++ "' for 'str' objects doesn't apply to a '" ++ t.family ++
        "' object")

end TypedSearch.Declared
