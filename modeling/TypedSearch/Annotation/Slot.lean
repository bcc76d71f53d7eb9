import TypedSearch.Annotation.Member

/-!
# Operations by name

Classes hold the operations of their objects under names with two underscores on either side. A
class shows such an operation as a thing of its own; with a thing before it, it is what the
operator, the function or the brackets would be.
-/

namespace TypedSearch.Declared

open Annotation

/-! ## Names -/

/-- The operations of numbers between which all operators have a meaning. -/
def numberSlots : String :=
  "lt le eq ne gt ge add radd sub rsub mul rmul mod rmod divmod rdivmod pow rpow neg pos abs " ++
  "bool int float floordiv rfloordiv truediv rtruediv "

def rowSlots : String := "repr getattribute lt le eq ne gt ge iter len "

/-- The operations that classes define for their objects, by the name of the class. -/
def slotNames : List (String × List String) := [
  ("object", listed "repr hash str getattribute setattr delattr lt le eq ne gt ge init"),
  ("int", listed (numberSlots ++
    "repr hash getattribute invert lshift rlshift rshift rrshift and rand xor rxor or ror index")),
  ("bool", listed "repr and rand xor rxor or ror"),
  ("float", listed (numberSlots ++ "repr hash getattribute")),
  ("complex", listed (
    "repr hash getattribute lt le eq ne gt ge add radd sub rsub mul rmul pow rpow neg pos abs " ++
    "bool truediv rtruediv")),
  ("str", listed (rowSlots ++ "hash str mod rmod getitem add mul rmul contains")),
  ("bytes", listed (rowSlots ++ "hash str mod rmod getitem add mul rmul contains")),
  ("list", listed (rowSlots ++ "init setitem delitem add mul rmul contains iadd imul")),
  ("tuple", listed (rowSlots ++ "hash getitem add mul rmul contains")),
  ("dict", listed (rowSlots ++ "init or ror ior setitem delitem")),
  ("set", listed (rowSlots ++ "init sub rsub and rand xor rxor or ror isub iand ixor ior")),
  ("frozenset", listed (rowSlots ++ "hash sub rsub and rand xor rxor or ror")),
  ("range", listed (rowSlots ++ "hash bool getitem contains")),
  ("slice", listed "repr getattribute lt le eq ne gt ge"),
  ("type", listed "repr call getattribute setattr delattr init or ror"),
  ("NoneType", listed "repr bool"),
  ("datetime.date", listed "repr hash str getattribute lt le eq ne gt ge add radd sub rsub"),
  ("datetime.datetime", listed "repr hash str getattribute lt le eq ne gt ge add radd sub rsub"),
  ("decimal.Decimal", listed (numberSlots ++ "repr hash str getattribute")),
  ("BaseException", listed "repr str getattribute setattr delattr init"),
  ("Enum", listed "repr str hash")]

/-- The methods that classes define beside these under names of that sort. -/
def reservedMethods : List (String × List String) := [
  ("object", listed "reduce_ex reduce getstate format sizeof dir"),
  ("int", listed "trunc floor ceil round getnewargs format sizeof"),
  ("float", listed "trunc floor ceil round getnewargs format"),
  ("complex", listed "complex getnewargs format"),
  ("str", listed "format sizeof getnewargs"),
  ("bytes", listed "getnewargs bytes"),
  ("list", listed "getitem reversed sizeof"),
  ("tuple", listed "getnewargs"),
  ("dict", listed "getitem contains sizeof reversed"),
  ("set", listed "contains reduce sizeof"),
  ("frozenset", listed "contains reduce sizeof"),
  ("range", listed "reversed reduce"),
  ("slice", listed "reduce"),
  ("type", listed "subclasses instancecheck subclasscheck dir sizeof"),
  ("datetime.date", listed "format reduce"),
  ("datetime.datetime", listed "reduce_ex reduce"),
  ("decimal.Decimal", listed "copy deepcopy format reduce round ceil floor trunc complex sizeof"),
  ("BaseException", listed "reduce setstate"),
  ("Enum", listed "format dir reduce_ex")]

def reservedName? (s : String) : Option String :=
  if isReserved s && 4 < s.length then some (.ofList ((s.toList.drop 2).dropLast.dropLast))
    else none

/-- The names of the classes that a class builds on, as far as they define operations, itself
first. -/
def slotOwners (c : Declared) : List String :=
  match c.ancestors?, c with
  | _, .enumeration _ => ["Enum", "object"]
  | some ts, _ => ts.filterMap fun t ↦ t.className?.map ClassName.full
  | none, .other o =>
    if exceptionClasses.any (·.2 == c) then ["BaseException", "object"]
      else [o.className.full, "object"]
  | none, _ => []

/-- The first of some classes that defines an operation, and whether it does as a method. -/
def slotOwner? (owners : List String) (name : String) : Option (String × Bool) :=
  owners.findSome? fun o ↦
    if (slotNames.lookup o).any (·.contains name) then some (o, false)
    else if (reservedMethods.lookup o).any (·.contains name) then some (o, true)
    else none

/-- An operation as the class that defines it shows it. -/
def slotThing (owner : String) (isMethod : Bool) (name : String) : Declared :=
  if owner == "Enum" then
    .reader ⟨"<function Enum.__" ++ name ++ "__ at 0x7f0000000000>", "__" ++ name ++ "__",
      "function", .refusal⟩
  else
    let text := (if isMethod then "<method '__" else "<slot wrapper '__") ++ name ++ "__' of '" ++
      owner ++ "' objects>"
    .reader ⟨text, text, if isMethod then "method_descriptor" else "wrapper_descriptor", .refusal⟩

/-- The class and the name of an operation by the text that it is shown as. -/
def slotShown? (shown : String) : Option (String × String) :=
  let find (isMethod : Bool) (table : List (String × List String)) : Option (String × String) :=
    table.findSome? fun o ↦ o.2.findSome? fun name ↦ match slotThing o.1 isMethod name with
      | .reader r => if r.shown == shown then some (o.1, name) else none
      | _ => none
  find false slotNames <|> find true reservedMethods

def classSlots : List String := listed "call getitem len iter contains reversed bool or ror"

/-- Does a thing have an operation under a name between underscores? A class has those of
classes. -/
def hasSlot (known : String → Option Enumeration) (t : Declared) (name : String) : Bool :=
  let ofAlias := ["getitem", "or", "ror", "repr", "eq", "ne", "hash", "call", "str"]
  match t with
  | .constant (.symbol ..) => ["repr", "str", "hash", "eq", "ne", "format"].contains name
  | .constant _ | .row .. => match classOf known t with
    | .ok c => (slotOwner? (slotOwners c) name).isSome
    | .error _ => false
  | .container _ .alias | .special _ | .applied .. | .appliedOther .. | .union .. | .literal _
  | .classVar _ => ofAlias.contains name
  | .reader r => r.family != "module" && ["call", "repr", "str", "hash", "eq", "ne"].contains name
  | .enumeration _ => classSlots.contains name
  | t => t.isClass && (["call", "or", "ror", "instancecheck", "subclasscheck"].contains name ||
      (name == "class_getitem" && takesKeys t))
where
  /-- Can the class be given arguments in brackets by a method of its own? -/
  takesKeys : Declared → Bool
    | .container f .plain => !f.isAbstract
    | .other c => c.takesArguments && c.className.name != "type"
    | _ => false

/-- The names between underscores that are no operations but stand for something in every class. -/
def otherFacts : List String := listed (
  "class class_getitem dict doc getformat init_subclass module name new qualname setformat " ++
  "subclasshook")

/-- Is there surely nothing under a name between underscores behind a thing? -/
def lacksSlot (known : String → Option Enumeration) (t : Declared) (name : String) : Bool :=
  match t with
  | .constant (.symbol _ _ _ isWhole) =>
    !isWhole && (slotOwner? ["object"] name).isNone && isOperation name
  | .reader r =>
    r.family != "module" && (slotOwner? ["object"] name).isNone && name != "call" &&
      (isOperation name || name == "mro")
  | .constant _ | .row .. => match classOf known t with
    | .ok c =>
      !(slotOwners c).isEmpty && (slotOwner? (slotOwners c) name).isNone &&
        !otherFacts.contains name
    | .error _ => false
  | .enumeration _ =>
    (slotOwner? ["type", "Enum", "object"] name).isNone && isOperation name &&
      !classSlots.contains name
  | .base _ | .container _ .plain | .other _ | .document _ | .textual _ =>
    !(slotOwners t).isEmpty && (slotOwner? ("type" :: slotOwners t) name).isNone && isOperation name
  | _ => false
where
  /-- Is a name that of an operation of any class? -/
  isOperation (name : String) : Bool := (slotNames ++ reservedMethods).any fun o ↦ o.2.contains name

/-- Do things of this sort, or the things of this class, have no number by which tables find
them? -/
def lacksHash : Declared → Bool
  | .row .list _ | .row .dict _ | .row .set _ | .constant (.list _) => true
  | .container f .plain => [.list, .dict, .set].contains f
  | _ => false

/-- What is behind a point under a name between underscores, if it is an operation that a class
defines for its objects. Where tables cannot find a thing, the null value stands in place of the
operation. -/
def slotOf? (t : Declared) (name : String) : Option Declared :=
  if name == "hash" && t.lacksHash then some nothing
  else if t.isClass then (slotOwner? (slotOwners t) name).map fun o ↦ slotThing o.1 o.2 name
    else none

/-! ## Meanings -/

def slotOperators : List (String × BinaryOp) := [
  ("add", .add), ("sub", .subtract), ("mul", .multiply), ("truediv", .divide),
  ("floordiv", .floorDivide), ("mod", .remainder), ("pow", .power), ("lshift", .shiftLeft),
  ("rshift", .shiftRight), ("and", .and), ("or", .or), ("xor", .xor)]

def slotComparisons : List (String × Comparison) := [
  ("eq", .equal), ("ne", .different), ("lt", .less), ("le", .atMost), ("gt", .greater),
  ("ge", .atLeast)]

/-- The functions by the names of the operations that they ask for. -/
def slotFunctions : List (String × String) := [
  ("len", "len"), ("repr", "repr"), ("str", "str"), ("hash", "hash"), ("bool", "bool"),
  ("int", "int"), ("float", "float"), ("abs", "abs"), ("iter", "iter"), ("next", "next"),
  ("round", "round"), ("format", "format"), ("reversed", "reversed"), ("divmod", "divmod"),
  ("index", "int"), ("trunc", "int"), ("complex", "complex"), ("bytes", "bytes")]

/-- What an operation answers that has no meaning for what it is given. -/
def notImplemented : Declared := (standardNames.lookup "NotImplemented").getD .rest

/-- Does the operation of a number take the other one? A wider one is left to its own class. -/
def takesOperand (t u : Declared) : Bool :=
  match t, u with
  | .constant v, .constant w =>
    if v.whole?.isSome then w.whole?.isSome
    else match v with
      | .float _ => w.binary?.isSome
      | .complex _ => w.complex?.isSome
      | .decimal _ => w.decimal?.isSome
      | .text _ => w.text?.isSome
      | v => v.family == w.family
  | t, u => t.family == u.family

def wrongOperands {α : Type} (wanted n : Nat) : Except Fault α :=
  misuse ("expected " ++ toString wanted ++ " argument" ++ (if wanted == 1 then "" else "s") ++
    ", got " ++ toString n)

/-- What the operation of a thing makes of another thing, if it is an operator or a comparison. -/
def callOperator? (t : Declared) (name : String) (args : List Declared) :
    Option (Building Declared) :=
  let turned := name.startsWith "r" && (slotOperators.lookup (name.drop 1).toString).isSome
  let plain := if turned then (name.drop 1).toString else name
  match slotOperators.lookup plain, slotComparisons.lookup name, args with
  | some op, _, [u] => some <|
    if t.isClass then
      tryCatch (if turned then combine op u t else combine op t u) fun _ ↦ return notImplemented
    else if takesOperand t u || (op == .remainder && t.family == "str") || t.isRepeatable then
      if turned then combine op u t else combine op t u
    else if t.series?.isSome then combine op t u
    else return notImplemented
  | none, some c, [u] => some <|
    if takesOperand t u then return .constant (.bool (← (compares c t u : Except Fault Bool)))
    else return notImplemented
  | some _, _, us | none, some _, us => some (wrongOperands 1 us.length : Except Fault Declared)
  | none, none, _ => none

/-- What the operation of a thing makes of arguments, unless it calls others: a function of the same
meaning if there is one. -/
def slotCall? (t : Declared) (name : String) (args : List Declared) :
    Option (Building Declared ⊕ (String × List Declared)) :=
  match callOperator? t name args with
  | some x => some (.inl x)
  | none => match name, args with
    | "getitem", [k] | "class_getitem", [k] => some (.inl (subscript t k))
    | "contains", [u] =>
      some (.inl do return .constant (.bool (← (isInside u t : Except Fault Bool))))
    | "getitem", us | "contains", us =>
      some (.inl (wrongOperands 1 us.length : Except Fault Declared))
    | "neg", [] => some (.inl (applyUnary .minus t : Except Fault Declared))
    | "pos", [] => some (.inl (applyUnary .plus t : Except Fault Declared))
    | "invert", [] => some (.inl (applyUnary .invert t : Except Fault Declared))
    | "getattribute", [u] => some (.inr ("getattr", [t, u]))
    | "instancecheck", [u] => some (.inr ("isinstance", [u, t]))
    | "subclasscheck", [u] => some (.inr ("issubclass", [u, t]))
    | "init", _ => some (.inl (return .constant .null))
    | name, args => (slotFunctions.lookup name).map fun f ↦ .inr (f, t :: args)

/-- Refuses a thing, or none, for an operation of a class. -/
def refuseSlot {α : Type} (owner name : String) (t : Option Declared) : Except Fault α :=
  let isMethod := (reservedMethods.lookup owner).any (·.contains name)
  let shown := "descriptor '__" ++ name ++ "__' "
  if owner == "Enum" then
    if t.isSome then .error (.unsupported name)
    else if name == "format" then
      misuse "Enum.__format__() missing 2 required positional arguments: 'self' and 'format_spec'"
    else misuse ("Enum.__" ++ name ++ "__() missing 1 required positional argument: 'self'")
  else match t, isMethod with
  | none, false => misuse (shown ++ "of '" ++ owner ++ "' object needs an argument")
  | none, true => misuse ("unbound method " ++ owner ++ ".__" ++ name ++ "__() needs an argument")
  | some t, false =>
    misuse (shown ++ "requires a '" ++ owner ++ "' object but received a '" ++ t.family ++ "'")
  | some t, true =>
    misuse (shown ++ "for '" ++ owner ++ "' objects doesn't apply to a '" ++ t.family ++
      "' object")

/-- Is a thing an object of a class that defines operations? -/
def hasOwner (known : String → Option Enumeration) (t : Declared) (owner : String) : Bool :=
  owner == "object" || match classOf known t with
    | .ok c => (slotOwners c).contains owner
    | .error _ => false

end TypedSearch.Declared
