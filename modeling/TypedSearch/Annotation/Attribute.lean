import TypedSearch.Declared.Construction
import TypedSearch.Declared.Standard

/-!
# Attributes in annotations

What stands behind a point: names and parts of types, members of enumerations, what a class holds
for its objects, and parts of values. A class lists the attributes of its objects as descriptors, of
which only the text is known.

## What is covered

The point in an annotation. Of the classes at hand only the attributes listed here are known; any
other attribute is missing, as the fault says.
-/

namespace TypedSearch.Declared

/-! ## The class of a thing -/

def namedClass (home name : String) (isContainer : Bool) : Declared :=
  .other ⟨⟨home, name⟩, isContainer, false, .refusal⟩

/-- The class of a plain value; `known` gives enumerations by their names. -/
def classOfValue (known : String → Option Enumeration) : Value → Except Fault Declared
  | .null => .ok null
  | .bool _ => .ok (.base .bool)
  | .int _ => .ok (.base .int)
  | .float _ => .ok (.base .float)
  | .complex _ => .ok (standardClass "complex" false false .complexNumber)
  | .decimal _ => .ok (.base .decimal)
  | .text _ => .ok (.base .text)
  | .bytes _ => .ok (.base .bytes)
  | .date _ => .ok (.base .date)
  | .moment _ => .ok (.base .moment)
  | .ratio _ => .ok (.base .ratio)
  | .list _ => .ok (.container .list .plain)
  | .tuple _ => .ok (.container .tuple .plain)
  | .symbol family .. => match known family with
    | some e => .ok (.enumeration e)
    | none => .error (.unsupported family)
  | .thing t => .ok ((standardNames.lookup t.family).getD (namedClass "" t.family false))
  | .code family .. | .record family .. => .error (.unsupported family)

def classOf (known : String → Option Enumeration) (t : Declared) : Except Fault Declared :=
  match t with
  | .constant v => classOfValue known v
  | .row .tuple _ => .ok (.container .tuple .plain)
  | .row .list _ => .ok (.container .list .plain)
  | .row .set _ => .ok (.container .set .plain)
  | .row .dict _ => .ok (.container .dict .plain)
  | .row .slice _ => .ok ((standardNames.lookup "slice").getD t)
  | .row .range _ => .ok ((standardNames.lookup "range").getD t)
  | .row .frozenset _ => .ok (.container .frozenset .plain)
  | .row (.walk f) _ | .row (.view f) _ =>
    .ok ((standardNames.lookup f).getD (namedClass "" f true))
  | t => .ok <| match t.family with
    | "type" => (standardNames.lookup "type").getD t
    | "EnumType" => namedClass "enum" "EnumType" true
    | "ABCMeta" => namedClass "abc" "ABCMeta" false
    | "types.GenericAlias" => namedClass "types" "GenericAlias" true
    | "types.UnionType" => namedClass "types" "UnionType" false
    | "_GenericAlias" => namedClass "typing" "_GenericAlias" true
    | "_LiteralGenericAlias" => namedClass "typing" "_LiteralGenericAlias" true
    | "_UnpackGenericAlias" => namedClass "typing" "_UnpackGenericAlias" true
    | "ellipsis" => namedClass "" "ellipsis" false
    | "function" => namedClass "" "function" false
    | "module" => namedClass "" "module" false
    | "builtin_function_or_method" => namedClass "" "builtin_function_or_method" false
    | "method_descriptor" => namedClass "" "method_descriptor" false
    | family => namedClass "typing" family false

/-! ## Descriptors -/

/-- The attributes that a class gives to its objects: the name of the class, its data by the sort of
descriptor, and its methods. -/
structure Outline where
  owner : String
  sort : String
  data : List String
  methods : List String
deriving DecidableEq, Repr

def listed (s : String) : List String := (Text.words s.toList).map String.ofList

def sharedTextMethods : String :=
  "capitalize center count endswith expandtabs find index isalnum isalpha isascii isdigit " ++
  "islower isspace istitle isupper join ljust lower lstrip partition replace removeprefix " ++
  "removesuffix rfind rindex rjust rpartition rsplit rstrip split splitlines startswith strip " ++
  "swapcase title translate upper zfill "

def wholeOutline : Outline :=
  ⟨"int", "attribute", listed "real imag numerator denominator",
    listed "conjugate bit_length bit_count to_bytes as_integer_ratio"⟩

def textOutline : Outline :=
  ⟨"str", "attribute", [], listed (sharedTextMethods ++
    "encode casefold isdecimal isnumeric isidentifier isprintable format format_map")⟩

def octetOutline (owner more : String) : Outline :=
  ⟨owner, "attribute", [], listed (sharedTextMethods ++ "decode hex " ++ more)⟩

def dateOutline : Outline :=
  ⟨"datetime.date", "attribute", listed "year month day",
    listed "ctime strftime isocalendar isoformat isoweekday replace timetuple toordinal weekday"⟩

/-- The outline of moments, apart from what they share with dates. -/
def momentOutline : Outline :=
  ⟨"datetime.datetime", "attribute", listed "hour minute second microsecond tzinfo fold",
    listed ("date time timetz ctime timetuple timestamp utctimetuple isoformat utcoffset tzname " ++
      "dst replace astimezone")⟩

def decimalOutline : Outline :=
  ⟨"decimal.Decimal", "attribute", listed "real imag",
    listed ("exp ln log10 next_minus next_plus normalize to_integral to_integral_exact " ++
      "to_integral_value sqrt compare compare_signal max max_mag min min_mag next_toward " ++
      "quantize remainder_near fma is_canonical is_finite is_infinite is_nan is_qnan is_snan " ++
      "is_signed is_zero is_normal is_subnormal adjusted canonical conjugate radix copy_abs " ++
      "copy_negate logb logical_invert number_class to_eng_string compare_total " ++
      "compare_total_mag copy_sign same_quantum logical_and logical_or logical_xor rotate " ++
      "scaleb shift as_tuple as_integer_ratio")⟩

/-- The outlines of sets, which differ in whether they can change. -/
def setOutline (owner more : String) : Outline :=
  ⟨owner, "attribute", [], listed
    ("copy difference intersection isdisjoint issubset issuperset symmetric_difference union " ++
      more)⟩

def otherOutlines (c : OtherClass) : List Outline :=
  if exceptionClasses.any (·.2 == .other c) then
    [⟨"BaseException", "attribute", ["args"], ["with_traceback", "add_note"]⟩]
  else match c.className.full with
    | "complex" => [⟨"complex", "member", ["real", "imag"], ["conjugate"]⟩]
    | "slice" => [⟨"slice", "member", ["start", "stop", "step"], ["indices"]⟩]
    | "range" => [⟨"range", "member", ["start", "stop", "step"], ["count", "index"]⟩]
    | "type" => [⟨"type", "attribute", [], ["mro"]⟩]
    | _ => []

/-- The outlines of a class, its own before those that it builds on. -/
def outlines : Declared → List Outline
  | .base .int | .base .bool => [wholeOutline]
  | .base .float =>
    [⟨"float", "attribute", ["real", "imag"], listed "conjugate as_integer_ratio hex is_integer"⟩]
  | .base .text | .textual _ => [textOutline]
  | .base .bytes => [octetOutline "bytes" ""]
  | .base .bytearray =>
    [octetOutline "bytearray" "append clear copy extend insert pop remove reverse"]
  | .base .date => [dateOutline]
  | .base .moment => [momentOutline, dateOutline]
  | .base .decimal => [decimalOutline]
  | .container .list .plain =>
    [⟨"list", "attribute", [],
      listed "clear copy append insert extend pop remove index count reverse sort"⟩]
  | .container .tuple .plain => [⟨"tuple", "attribute", [], ["index", "count"]⟩]
  | .container .dict .plain =>
    [⟨"dict", "attribute", [],
      listed "get setdefault pop popitem keys items values update clear copy"⟩]
  | .container .set .plain => [setOutline "set" (
      "add clear discard difference_update intersection_update pop remove " ++
      "symmetric_difference_update update")]
  | .container .frozenset .plain => [setOutline "frozenset" ""]
  | .other c => otherOutlines c
  | _ => []

def Outline.descriptor? (o : Outline) (s : String) : Option Declared :=
  if o.data.contains s then
    let text := "<" ++ o.sort ++ " '" ++ s ++ "' of '" ++ o.owner ++ "' objects>"
    let family := if o.sort == "member" then "member_descriptor" else "getset_descriptor"
    some (.constant (.thing ⟨family, text, text, true, true⟩))
  else if o.methods.contains s then
    let text := "<method '" ++ s ++ "' of '" ++ o.owner ++ "' objects>"
    let reading := match TextMethod.all.lookup s with
      | some m => if o.owner == "str" then .method m else .refusal
      | none => .refusal
    some (.reader ⟨text, text, "method_descriptor", reading⟩)
  else none

/-! ## Attributes -/

def ofText (s : String) : Declared := .constant (.text s)

/-- Is the name one of those with two underscores on either side? -/
def isReserved (s : String) : Bool := s.startsWith "__" && s.endsWith "__"

/-- The names between two underscores on either side that things of every sort may have. -/
def commonFacts : List String := listed (
  "abs abstractmethods add and annotations basicsize bool bytes call cause ceil class_getitem " ++
  "complex contains context copy deepcopy delattr delete delitem dict dictoffset dir divmod doc " ++
  "eq flags float floor floordiv format ge get getattr getattribute getformat getitem " ++
  "getnewargs getstate gt hash iadd iand imul index init init_subclass instancecheck int invert " ++
  "ior isub itemsize iter ixor le len lshift lt mod mro_entries mul ne neg new objclass or pos " ++
  "pow prepare radd rand rdivmod reduce reduce_ex repr reversed rfloordiv rlshift rmod rmul ror " ++
  "round rpow rrshift rshift rsub rtruediv rxor self set setattr setitem setstate sizeof slots " ++
  "str sub subclasscheck subclasses subclasshook suppress_context text_signature traceback " ++
  "truediv trunc weakref weakrefoffset xor")

def typeFacts : List String := listed
  "args base bases members module mro name origin parameters qualname unpacked"

/-- Is the name one of those of `facts` between two underscores on either side? -/
def isFact (facts : List String) (s : String) : Bool := facts.any fun f ↦ "__" ++ f ++ "__" == s

def noAttribute {α : Type} (t : Declared) (s : String) : Except Fault α :=
  if isFact commonFacts s then .error (.unsupported s)
  else .error (.noAttribute ("'" ++ t.family ++ "' object has no attribute '" ++ s ++ "'"))

def noTypeAttribute {α : Type} (message s : String) : Except Fault α :=
  if isFact (commonFacts ++ typeFacts) s then .error (.unsupported s)
    else .error (.noAttribute message)

/-- The classes that a class builds on, itself first, where these are few. -/
def ancestors? : Declared → Option (List Declared)
  | .base .object => some [.base .object]
  | .base .bool => some [.base .bool, .base .int, .base .object]
  | .base .moment => some [.base .moment, .base .date, .base .object]
  | .base .any | .base .ratio => none
  | .base b => some [.base b, .base .object]
  | .enumeration e =>
    let root : Declared := .enumeration ⟨⟨"enum", "Enum"⟩, [], false⟩
    if e.whole then none else some [.enumeration e, root, .base .object]
  | .container f .plain =>
    if f.isAbstract then none else some [.container f .plain, .base .object]
  | .other c =>
    let name := c.className.name
    if c.making == .complexNumber || c.making == .classOfText then some [.other c, .base .object]
    else if exceptionClasses.lookup name == some (.other c) && name != "ExceptionGroup" then
      some (((exceptionLine 8 name).filterMap fun n ↦ exceptionClasses.lookup n) ++ [.base .object])
    else none
  | .document d => if d.isDerived then none else some [.document d, .base .object]
  | _ => none

/-- What all classes hold under a name, if it is one of those names. -/
def classFact? (c : ClassName) (s : String) : Option Declared :=
  if s == "__name__" || s == "__qualname__" then some (ofText c.name)
  else if s == "__module__" then some (ofText (if c.home.isEmpty then "builtins" else c.home))
  else none

/-- What a class holds under a name about the classes that it builds on. -/
def ancestry? (t : Declared) (s : String) : Option Declared :=
  t.ancestors?.bind fun ts ↦ match s with
    | "__mro__" => some (rowOf .tuple ts)
    | "__bases__" => some (rowOf .tuple ((ts.drop 1).take 1))
    | "__base__" => some (((ts.drop 1).head?).getD (.constant .null))
    | _ => none

def firstDate : Date := ⟨1, 1, 1, by decide⟩

def lastDate : Date := ⟨9999, 12, 31, by decide⟩

def momentLimits : List (String × Value) := [
  ("min", .moment ⟨firstDate, .ofMicros 0, none⟩),
  ("max", .moment ⟨lastDate, .ofMicros 86399999999, none⟩),
  ("resolution", .thing ⟨"datetime.timedelta", "0:00:00.000001",
    "datetime.timedelta(microseconds=1)", true, true⟩)]

def dateLimits : List (String × Value) := [
  ("min", .date firstDate), ("max", .date lastDate),
  ("resolution", .thing ⟨"datetime.timedelta", "1 day, 0:00:00", "datetime.timedelta(days=1)", true,
    true⟩)]

def heldBy : Declared → List (String × Value)
  | .base .moment => momentLimits
  | .base .date => dateLimits
  | .document d => d.held
  | _ => []

def memberTable? (e : Enumeration) (s : String) : Option Declared :=
  let symbol (m : String × Value) : Declared := .constant (.symbol e.className.name m.1 m.2 e.whole)
  match s with
  | "__members__" | "_member_map_" =>
    some (.row .dict (e.members.flatMap fun m ↦ [ofText m.1, symbol m]))
  | "_value2member_map_" => some (.row .dict (e.members.flatMap fun m ↦ [.constant m.2, symbol m]))
  | "_member_names_" => some (rowOf .list (e.members.map fun m ↦ ofText m.1))
  | _ => none

def classAttribute (t : Declared) (c : ClassName) (s : String) : Except Fault Declared :=
  match classFact? c s <|> ancestry? t s, t with
  | some u, _ => .ok u
  | none, .enumeration e => match e.members.lookup s with
    | some v => .ok (.constant (.symbol e.className.name s v e.whole))
    | none =>
      if let some t := memberTable? e s then .ok t
      else if s == "__origin__" then .error (.noAttribute s)
      else noTypeAttribute s s
  | none, t => match t.heldBy.lookup s with
    | some v => .ok (.constant v)
    | none => match t.outlines.findSome? (·.descriptor? s) with
      | some d => .ok d
      | none =>
        let message := "type object '" ++ t.refusingName ++ "' has no attribute '" ++ s ++ "'"
        if ["__origin__", "__args__", "__parameters__", "__members__"].contains s then
          .error (.noAttribute message)
        else noTypeAttribute message s

def numberPart? (v : Value) (s : String) : Option Value :=
  match v, s with
  | .float x, "real" => some (.float x)
  | .float _, "imag" => some (.float (.zero false))
  | .complex z, "real" => some (.float z.re)
  | .complex z, "imag" => some (.float z.im)
  | .decimal d, "real" => some (.decimal d)
  | .decimal _, "imag" => some (.decimal (.finite false 0 0))
  | .ratio q, "numerator" => some (.int q.num)
  | .ratio q, "denominator" => some (.int q.den)
  | .ratio q, "real" => some (.ratio q)
  | .ratio _, "imag" => some (.int 0)
  | v, s => v.whole?.bind fun n ↦ match s with
    | "real" | "numerator" => some (.int n)
    | "imag" => some (.int 0)
    | "denominator" => some (.int 1)
    | _ => none

def datePart? (d : Date) (s : String) : Option Value :=
  match s with
  | "year" => some (.int d.year)
  | "month" => some (.int d.month)
  | "day" => some (.int d.day)
  | _ => none

def part? (v : Value) (s : String) : Option Value :=
  match v, s with
  | .symbol _ name .., "name" | .symbol _ name .., "_name_" => some (.text name)
  | .symbol _ _ value _, "value" | .symbol _ _ value _, "_value_" => some value
  | .decimal _, "__module__" => some (.text "decimal")
  | .ratio _, "__module__" => some (.text "fractions")
  | .date d, s => datePart? d s <|> dateLimits.lookup s
  | .moment m, "hour" => some (.int m.time.hour)
  | .moment m, "minute" => some (.int m.time.minute)
  | .moment m, "second" => some (.int m.time.second)
  | .moment m, "microsecond" => some (.int m.time.micro)
  | .moment ⟨_, _, none⟩, "tzinfo" => some .null
  | .moment _, "fold" => some (.int 0)
  | .moment m, s => datePart? m.date s <|> momentLimits.lookup s
  | .record _ names values _, s => (names.zip values).lookup s
  | v, s => numberPart? v s

def valueAttribute (known : String → Option Enumeration) (v : Value) (s : String) :
    Except Fault Declared :=
  match part? v s with
  | some w => .ok (.constant w)
  | none =>
    let ofClass? : Option Declared := match v with
      | .symbol family .. => do
        let e ← known family
        if s == "__module__" then return ofText e.className.home
        let w ← e.members.lookup s
        return .constant (.symbol family s w e.whole)
      | _ => none
    match ofClass?, classOfValue known v, v with
    | some t, _, _ => .ok t
    | none, .ok c, _ =>
      if c.outlines.any fun o ↦ (o.descriptor? s).isSome then .error (.unsupported s)
      else noAttribute (.constant v) s
    | none, .error _, .record .. | none, .error _, .code .. =>
      if isReserved s then .error (.unsupported s) else noAttribute (.constant v) s
    | none, .error _, _ => noAttribute (.constant v) s

def formAttribute (f : SpecialForm) (s : String) : Except Fault Declared :=
  if s == "__name__" || s == "__qualname__" || s == "_name" then
    .ok (ofText (.ofList (f.full.toList.drop "typing.".length)))
  else if s == "__module__" then .ok (ofText "typing")
  else if isFact commonFacts s then .error (.unsupported s)
  else .error (.noAttribute s)

/-- The attribute of an alias, with its head and its arguments if it has any; what it does not have
itself it takes from the class it stands for. -/
def aliasAttribute (name : String) (origin : Declared) (args : Option (List Declared))
    (inherited : String → Except Fault Declared) (s : String) : Except Fault Declared :=
  if s == "__name__" || s == "__qualname__" || s == "_name" then .ok (ofText name)
  else if s == "__origin__" then .ok origin
  else if s == "__module__" then .ok (ofText "typing")
  else match s, args with
    | "__args__", some ts => .ok (rowOf .tuple ts)
    | s, _ =>
      if s == "__parameters__" && args.isSome then .ok (rowOf .tuple [])
      else if isFact commonFacts s then .error (.unsupported s)
      else if isReserved s then .error (.noAttribute s)
      else inherited s

def memberOf (known : String → Option Enumeration) (t : Declared) (s : String) :
    Except Fault Declared :=
  let ofClass (c : Declared) (s : String) : Except Fault Declared := match c.className? with
    | some n => classAttribute c n s
    | none => noAttribute c s
  let ofAlias (f : Family) (args : Option (List Declared)) : Except Fault Declared :=
    let origin := Declared.container f .plain
    aliasAttribute f.aliasName origin args (ofClass origin) s
  let ofPlain (origin : Declared) (args : List Declared) : Except Fault Declared :=
    if s == "__origin__" then .ok origin
    else if s == "__args__" then .ok (rowOf .tuple args)
    else if s == "__parameters__" then .ok (rowOf .tuple [])
    else ofClass origin s
  if s == "__class__" then classOf known t
  else match t with
    | .constant v => valueAttribute known v s
    | .container f .alias => ofAlias f none
    | .applied f .alias args => ofAlias f (some args)
    | .applied f .plain args => ofPlain (.container f .plain) args
    | .appliedOther c args => ofPlain (.other c) args
    | .special f => formAttribute f s
    | .union .brackets members =>
      let name := if members.length == 2 && members.contains null then "Optional" else "Union"
      aliasAttribute name (.special .union) (some members) (formAttribute .union) s
    | .union .bars members =>
      if s == "__args__" then .ok (rowOf .tuple members)
      else if s == "__parameters__" then .ok (rowOf .tuple [])
      else noAttribute t s
    | .literal values =>
      aliasAttribute "Literal" (.special .literal) (some (values.map .constant))
        (formAttribute .literal) s
    | .classVar u =>
      aliasAttribute "ClassVar" (.special .classVar) (some [u]) (formAttribute .classVar) s
    | .forward text => if s == "__forward_arg__" then .ok (ofText text) else noAttribute t s
    | .reader r =>
      if r.family == "builtin_function_or_method" then
        if s == "__name__" || s == "__qualname__" then .ok (ofText r.label)
        else if s == "__module__" then .ok (ofText "builtins")
        else noAttribute t s
      else if isReserved s then .error (.unsupported s)
      else noAttribute t s
    | .row .. | .rest | .unpacked _ => match classOf known t with
      | .ok c =>
        if c.outlines.any fun o ↦ (o.descriptor? s).isSome then .error (.unsupported s)
        else noAttribute t s
      | .error f => .error f
    | t => ofClass t s

end TypedSearch.Declared
