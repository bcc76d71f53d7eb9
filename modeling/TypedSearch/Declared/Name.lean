import TypedSearch.Declared.Basic

/-!
# Names of declared types

How a declared type is written in messages: a class alone by its bare name, everything else in full,
with the home of each class in front.
-/

namespace TypedSearch

open Text

/-- The class of a single value: its home and name. -/
def Base.className : Base → ClassName
  | .int => ⟨"", "int"⟩
  | .text => ⟨"", "str"⟩
  | .bool => ⟨"", "bool"⟩
  | .float => ⟨"", "float"⟩
  | .decimal => ⟨"decimal", "Decimal"⟩
  | .moment => ⟨"datetime", "datetime"⟩
  | .date => ⟨"datetime", "date"⟩
  | .ratio => ⟨"fractions", "Fraction"⟩
  | .null => ⟨"", "NoneType"⟩
  | .object => ⟨"", "object"⟩
  | .bytes => ⟨"", "bytes"⟩
  | .bytearray => ⟨"", "bytearray"⟩
  | .any => ⟨"typing", "Any"⟩

/-- The class of a container: its home and name. -/
def Family.className : Family → ClassName
  | .list => ⟨"", "list"⟩
  | .tuple => ⟨"", "tuple"⟩
  | .dict => ⟨"", "dict"⟩
  | .set => ⟨"", "set"⟩
  | .frozenset => ⟨"", "frozenset"⟩
  | .deque => ⟨"collections", "deque"⟩
  | .sequence => ⟨"collections.abc", "Sequence"⟩
  | .mutableSequence => ⟨"collections.abc", "MutableSequence"⟩
  | .collection => ⟨"collections.abc", "Collection"⟩
  | .iterable => ⟨"collections.abc", "Iterable"⟩
  | .iterator => ⟨"collections.abc", "Iterator"⟩
  | .mapping => ⟨"collections.abc", "Mapping"⟩
  | .abstractSet => ⟨"collections.abc", "Set"⟩

def Family.isAbstract : Family → Bool
  | .list | .tuple | .dict | .set | .frozenset | .deque => false
  | _ => true

def Family.aliasName : Family → String
  | .list => "List"
  | .tuple => "Tuple"
  | .dict => "Dict"
  | .set => "Set"
  | .frozenset => "FrozenSet"
  | .deque => "Deque"
  | .sequence => "Sequence"
  | .mutableSequence => "MutableSequence"
  | .collection => "Collection"
  | .iterable => "Iterable"
  | .iterator => "Iterator"
  | .mapping => "Mapping"
  | .abstractSet => "AbstractSet"

/-- The name of a class with its home in front, unless it is at home everywhere. -/
def ClassName.full (c : ClassName) : String := if c.home.isEmpty then c.name else c.qualified

def Family.full (f : Family) : Spelling → String
  | .plain => f.className.full
  | .alias => "typing." ++ f.aliasName

def SpecialForm.full : SpecialForm → String
  | .classVar => "typing.ClassVar"
  | .optional => "typing.Optional"
  | .union => "typing.Union"
  | .literal => "typing.Literal"

namespace Declared

/-- Arguments in brackets; where there are none, an empty pair of parentheses stands for them. -/
def bracketed (args : List String) : String :=
  "[" ++ (if args.isEmpty then "()" else ", ".intercalate args) ++ "]"

/-- The text of a union by the texts of its members: two members one of which is the null class make
an optional type. -/
def unionText (style : UnionStyle) (members : List (Bool × String)) : String :=
  match style with
  | .bars => " | ".intercalate (members.map fun m ↦ if m.1 then "None" else m.2)
  | .brackets => match members with
    | [(true, _), (_, t)] | [(_, t), (true, _)] => "typing.Optional" ++ bracketed [t]
    | members => "typing.Union" ++ bracketed (members.map (·.2))

def rowText : RowForm → List String → String
  | .tuple, items => Value.tupleText items
  | .list, items => "[" ++ ", ".intercalate items ++ "]"
  | .set, [] => "set()"
  | .set, items => "\x7b" ++ ", ".intercalate items ++ "\x7d"
  | .dict, items => "\x7b" ++ ", ".intercalate (pairs items) ++ "\x7d"
  | .slice, items => "slice(" ++ ", ".intercalate items ++ ")"
  | .range, [a, b, "1"] => "range(" ++ a ++ ", " ++ b ++ ")"
  | .range, items => "range(" ++ ", ".intercalate items ++ ")"
  | .frozenset, [] => "frozenset()"
  | .frozenset, items => "frozenset(\x7b" ++ ", ".intercalate items ++ "\x7d)"
  | .walk family, _ =>
    "<" ++ family ++ " object " ++ (if family == "generator" then "<genexpr> " else "") ++
      "at 0x7f0000000000>"
  | .view family, items => family ++ "([" ++ ", ".intercalate items ++ "])"
where
  /-- Keys and values with a colon between them. -/
  pairs : List String → List String
    | k :: v :: more => (k ++ ": " ++ v) :: pairs more
    | others => others

def className? : Declared → Option ClassName
  | .base b => some b.className
  | .container f .plain => some f.className
  | .enumeration e => some e.className
  | .textual c => some c
  | .document d => some d.className
  | .other c => some c.className
  | _ => none

def isClass (t : Declared) : Bool := t.className?.isSome

def classText? : Declared → Option String
  | .base .any => some "typing.Any"
  | .enumeration e => some ("<enum '" ++ e.className.name ++ "'>")
  | .rest => some "Ellipsis"
  | t => t.className?.map fun c ↦ "<class '" ++ c.full ++ "'>"

mutual

def shown : Declared → String
  | .base b => b.className.full
  | .rest => "..."
  | .container f s => f.full s
  | .applied f .alias args => f.full .alias ++ bracketed (shownAll args)
  | .applied f .plain args => f.full .plain ++ bracketed (labels args)
  | .enumeration e => e.className.full
  | .textual c => c.full
  | .reader r => r.shown
  | .document d => d.className.full
  | .other c => c.className.full
  | .appliedOther c args => c.className.full ++ bracketed (labels args)
  | .special f => f.full
  | .classVar t => "typing.ClassVar" ++ bracketed [shown t]
  | .union style members => unionText style (shownMembers members)
  | .literal values => "typing.Literal" ++ bracketed (Value.inspectAll values)
  | .constant v => v.inspect
  | .forward text => "ForwardRef(" ++ quoted text ++ ")"
  | .row form items => rowText form (inspectAll items)
  | .unpacked t => "*" ++ shown t

def shownAll : List Declared → List String
  | [] => []
  | .reader r :: ts => (if r.family == "function" then r.label else r.shown) :: shownAll ts
  | t :: ts => shown t :: shownAll ts

/-- The texts of a row of types inside a class with arguments. -/
def labels : List Declared → List String
  | [] => []
  | .reader r :: ts => r.label :: labels ts
  | t :: ts => shown t :: labels ts

/-- The texts of the members of a union, with a mark at the null class. -/
def shownMembers : List Declared → List (Bool × String)
  | [] => []
  | .reader r :: ts =>
    (false, if r.family == "function" then r.label else r.shown) :: shownMembers ts
  | t :: ts => (t == null, shown t) :: shownMembers ts

/-- The texts of a row of types on their own inside a message. -/
def inspectAll : List Declared → List String
  | [] => []
  | t :: ts => (classText? t).getD (shown t) :: inspectAll ts

end

def inspect (t : Declared) : String := (classText? t).getD t.shown

def name (t : Declared) : String :=
  match t.className?, t with
  | some c, _ => c.name
  | none, .rest => "Ellipsis"
  | none, .constant v => v.display
  | none, t => t.shown

mutual

/-- Are all integers inside a type short enough to be written? -/
def fits : Declared → Bool
  | .applied _ _ args | .appliedOther _ args | .union _ args => fitsAll args
  | .row (.walk _) _ => true
  | .row _ items => fitsAll items
  | .classVar t | .unpacked t => fits t
  | .literal values => Value.fitsAll values
  | .constant v => v.fits
  | _ => true

/-- Are all integers inside a row of types short enough to be written? -/
def fitsAll : List Declared → Bool
  | [] => true
  | t :: ts => fits t && fitsAll ts

end

/-- The name of a type in answers and messages, if its integers are short enough to be written. -/
def name? (t : Declared) : Except Fault String :=
  match t with
  | .constant v => v.display?
  | t => if t.fits then .ok t.name else .error .tooManyDigits

def naming (t : Declared) (fault : String → Fault) : Fault :=
  match t.name? with
  | .ok name => fault name
  | .error f => f

/-! ## The classes that types belong to -/

def family : Declared → String
  | .base .any => "_AnyMeta"
  | .base .ratio => "ABCMeta"
  | .container f .plain => if f.isAbstract then "ABCMeta" else "type"
  | .base _ | .textual _ | .document _ | .other _ => "type"
  | .enumeration _ => "EnumType"
  | .rest => "ellipsis"
  | .container .tuple .alias => "_TupleType"
  | .container _ .alias => "_SpecialGenericAlias"
  | .applied _ .plain _ | .appliedOther .. | .unpacked (.applied _ .plain _)
  | .unpacked (.appliedOther ..) => "types.GenericAlias"
  | .applied _ .alias _ | .classVar _ => "_GenericAlias"
  | .special .literal => "_TypedCacheSpecialForm"
  | .special _ => "_SpecialForm"
  | .union .brackets _ => "_UnionGenericAlias"
  | .union .bars _ => "types.UnionType"
  | .literal _ => "_LiteralGenericAlias"
  | .forward _ => "ForwardRef"
  | .unpacked _ => "_UnpackGenericAlias"
  | .reader r => r.family
  | .constant v => v.family
  | .row .tuple _ => "tuple"
  | .row .list _ => "list"
  | .row .set _ => "set"
  | .row .dict _ => "dict"
  | .row .slice _ => "slice"
  | .row .range _ => "range"
  | .row .frozenset _ => "frozenset"
  | .row (.walk f) _ | .row (.view f) _ => f

/-- The class of an argument as some functions name it: the null value by itself. -/
def argumentFamily (t : Declared) : String := if t == .constant .null then "None" else t.family

/-! ## Keys -/

mutual

/-- Why the type cannot be a key, if it cannot; a constant inside it may prevent that. -/
def keyFault? : Declared → Option String
  | .applied _ _ args | .appliedOther _ args | .union _ args | .row .tuple args =>
    firstKeyFault? args
  | .classVar t | .unpacked t => keyFault? t
  | .literal values => Value.firstKeyFault? values
  | .constant v => v.keyFault?
  | .row .list _ => some "unhashable type: 'list'"
  | .row .set _ => some "unhashable type: 'set'"
  | .row .dict _ => some "unhashable type: 'dict'"
  | .row .slice _ => some "unhashable type: 'slice'"
  | .row (.view f) _ => if f == "dict_values" then none else some ("unhashable type: '" ++ f ++ "'")
  | _ => none

/-- Why the first type of a row that cannot be a key cannot. -/
def firstKeyFault? : List Declared → Option String
  | [] => none
  | t :: ts => keyFault? t <|> firstKeyFault? ts

end

def checkKey (t : Declared) : Except Fault Unit :=
  match t.keyFault? with
  | none => .ok ()
  | some message => .error (.wrongType message)

end Declared

end TypedSearch
