import TypedSearch.Annotation.Call

/-!
# Members of things

The methods that things have by their class, called on a thing or on the class with the thing as the
first argument; what modules hold; and how a method changes the thing that it belongs to.
-/

namespace TypedSearch.Declared

open Annotation

/-! ## Methods -/

/-- The outlines of all classes that give methods to their objects. -/
def allOutlines : List Outline :=
  (standardNames.flatMap fun n ↦ outlines n.2) ++ outlines (.base .date) ++
    outlines (.base .moment) ++
    outlines (.base .decimal)

def ownOutlines (known : String → Option Enumeration) (t : Declared) : List Outline :=
  match t with
  | .constant _ | .row .. => match classOf known t with
    | .ok c => outlines c
    | .error _ => []
  | _ => []

/-- The name of the class from which a thing has a method, if it has the method. -/
def ownerOf? (known : String → Option Enumeration) (t : Declared) (s : String) : Option String :=
  ((ownOutlines known t).find? fun o ↦ o.methods.contains s).map Outline.owner

/-- Does a list, a dictionary or a set give the arguments by name of a method a meaning? -/
def takesNames (t : Declared) (name : String) : Bool :=
  match t.series?, t with
  | some (.list, _), _ => name == "sort"
  | none, .row .dict _ => name == "update"
  | _, _ => false

/-- What a method of a thing makes of arguments, of which some may be given by name. -/
def callOwn (known : String → Option Enumeration) (t : Declared) (name : String)
    (args : List Declared) (named : List (String × Declared)) : Except Fault Declared :=
  match t with
  | .constant (.text _) => callTextMethod name (t :: args) named
  | .constant (.bytes _) =>
    if name == "decode" && args.isEmpty then callMethod t name (named.map Prod.snd)
    else if named.isEmpty then callMethod t name args
    else .error (.unsupported name)
  | t =>
    if named.isEmpty || takesNames t name then callMethod t name args
    else misuse ((ownerOf? known t name).getD "" ++ "." ++ name ++ "() takes no keyword arguments")

/-- The outline and the name of a method by the text that its descriptor is shown as. -/
def described? (shown : String) : Option (Outline × String) :=
  allOutlines.findSome? fun o ↦ o.methods.findSome? fun s ↦
    if "<method '" ++ s ++ "' of '" ++ o.owner ++ "' objects>" == shown then some (o, s) else none

/-- What the method of a class makes of arguments, the first of which is the thing. -/
def callDescribed (known : String → Option Enumeration) (o : Outline) (name : String)
    (args : List Declared) (named : List (String × Declared)) : Except Fault Declared :=
  match args with
  | [] => misuse ("unbound method " ++ o.owner ++ "." ++ name ++ "() needs an argument")
  | t :: ts =>
    if (ownOutlines known t).any fun p ↦ p.owner == o.owner then callOwn known t name ts named
    else misuse ("descriptor '" ++ name ++ "' for '" ++ o.owner ++
      "' objects doesn't apply to a '" ++ t.family ++ "' object")

/-! ## Methods of classes -/

/-- The methods that classes have themselves, by the name of the class. -/
def classMethods : List (String × List String) := [
  ("dict", ["fromkeys"]), ("bytes", ["fromhex", "maketrans"]),
  ("bytearray", ["fromhex", "maketrans"]), ("int", ["from_bytes"]), ("bool", ["from_bytes"]),
  ("float", ["fromhex"]), ("str", ["maketrans"]), ("decimal.Decimal", ["from_float"]),
  ("datetime.date", ["fromisocalendar", "fromisoformat", "fromordinal", "fromtimestamp", "today"]),
  ("datetime.datetime", ["combine", "fromisocalendar", "fromisoformat", "fromordinal",
    "fromtimestamp", "now", "strptime", "today", "utcfromtimestamp", "utcnow"])]

def hasClassMethod (t : Declared) (s : String) : Bool :=
  match t.className? with
  | some c => (classMethods.lookup c.full).any (·.contains s) ||
      (s == "mro" && t.ancestors?.isSome && c.full != "type")
  | none => false

/-- The class whose method stands behind a point: a class, or that of a thing that is no type. -/
def methodClass? (known : String → Option Enumeration) (t : Declared) (s : String) :
    Option Declared :=
  if hasClassMethod t s then some t
  else if s == "mro" then none
  else match t with
    | .constant _ | .row .. => (classOf known t).toOption.bind fun c ↦
        if hasClassMethod c s then some c else none
    | _ => none

/-- The name of a method of a class in messages: behind that of the class that it comes from. -/
def classMethodName (c : Declared) (s : String) : String :=
  let owner :=
    if s == "mro" then "type"
    else if c == .base .bool then "int"
    else if c == .base .moment && ["fromisocalendar", "fromordinal", "today"].contains s then "date"
    else (c.className?.map ClassName.name).getD ""
  owner ++ "." ++ s ++ "()"

/-- The octets that digits in base sixteen stand for, two for each; blanks may stand between
them. -/
def octetsOf : List Char → Option (List UInt8)
  | [] => some []
  | [c] => if Text.isBlank c then some [] else none
  | c :: d :: cs =>
    if Text.isBlank c then octetsOf (d :: cs)
    else do
      let high ← digit c
      let low ← digit d
      return .ofNat (16 * high + low) :: (← octetsOf cs)
where
  /-- The value of a digit. -/
  digit (c : Char) : Option Nat :=
    if '0' ≤ c && c ≤ '9' then some (c.toNat - 48)
    else if 'a' ≤ c && c ≤ 'f' then some (c.toNat - 87)
    else if 'A' ≤ c && c ≤ 'F' then some (c.toNat - 55)
    else none

/-- Code points with what takes their place, by turns: those of a dictionary, or the characters of
two texts side by side and those of a third one that are left out. -/
def translation (args : List Declared) : Except Fault (List Declared) :=
  let point (c : Char) : Declared := .constant (.int c.toNat)
  match args with
  | [.row .dict items] => (pairsOf items).foldlM (fun made p ↦ match p.elements? with
      | some [.constant (.text s), v] => match s.toList with
        | [c] => .ok (putPair (point c) v made)
        | _ => .error (.badValue "string keys in translate table must be of length 1")
      | some [k, v] =>
        if k.place?.isSome then .ok (putPair k v made)
        else misuse "keys in translate table must be strings or integers"
      | _ => .ok made) []
  | .constant (.text a) :: .constant (.text b) :: more =>
    if a.length != b.length then
      .error (.badValue "the first two maketrans arguments must have equal length")
    else
      let made := (a.toList.zip b.toList).foldl (fun made p ↦ putPair (point p.1) (point p.2) made)
        []
      match more with
      | [] => .ok made
      | [.constant (.text c)] =>
        .ok (c.toList.foldl (fun made c ↦ putPair (point c) nothing made) made)
      | _ => .error (.unsupported "maketrans")
  | [_] => misuse "if you give only one argument to maketrans it must be a dict"
  | _ => .error (.unsupported "maketrans")

def callClassMethod (t : Declared) (name : String) (args : List Declared) : Except Fault Declared :=
  match t, name, args with
  | .container .dict .plain, "fromkeys", ts => fromKeys ts
  | .base .bytes, "fromhex", [.constant (.text s)] => match octetsOf s.toList with
    | some bs => .ok (.constant (.bytes bs))
    | none => .error (.unsupported name)
  | .base .bytes, "fromhex", [u] =>
    misuse ("fromhex() argument must be str, not " ++ u.argumentFamily)
  | .base .bytes, "fromhex", us => takesOne "bytes" name us.length
  | .base .text, "maketrans", ts => do return .row .dict (← translation ts)
  | .base .date, "fromisoformat", [.constant (.text s)] => match Date.read? s.toList with
    | some d => .ok (.constant (.date d))
    | none => .error (.badValue ("Invalid isoformat string: " ++ Text.quoted s))
  | .base .moment, "fromisoformat", [.constant (.text s)] => match Moment.read? s.toList with
    | some m => .ok (.constant (.moment m))
    | none => .error (.badValue ("Invalid isoformat string: " ++ Text.quoted s))
  | _, "fromisoformat", [_] => misuse "fromisoformat: argument must be str"
  | .base .moment, "strptime", [.constant (.text s), .constant (.text pattern)] =>
    match Moment.ofPattern? pattern.toList s.toList with
    | some m => .ok (.constant (.moment m))
    | none => .error (.unsupported name)
  | .base .date, "fromordinal", [n] | .base .moment, "fromordinal", [n] => do
    let n ← wholeOf n
    match if n < 1 then none else Date.ofOrdinal? n.toNat with
    | some d =>
      return .constant (if t == .base .date then .date d else .moment ⟨d, .ofMicros 0, none⟩)
    | none => .error (.badValue "ordinal must be >= 1")
  | .base .moment, "combine", [.constant (.date d), .constant (.moment m)] =>
    .ok (.constant (.moment ⟨d, m.time, m.offset⟩))
  | t, "mro", [] => match t.ancestors? with
    | some ts => .ok (.row .list ts)
    | none => .error (.unsupported name)
  | _, "mro", us => takesNone "type" name us.length
  | _, name, _ => .error (.unsupported name)

/-! ## Changes -/

def changedList? (ts : List Declared) (name : String) (args : List Declared) :
    Option (List Declared) :=
  let dropAt (i : Int) : Option (List Declared) := (index? ts.length i).map ts.eraseIdx
  match name, args with
  | "append", [t] => some (ts ++ [t])
  | "extend", [t] => t.elements?.map (ts ++ ·)
  | "clear", [] => some []
  | "reverse", [] => some ts.reverse
  | "remove", [t] => (placeOf? t ts).map ts.eraseIdx
  | "insert", [i, t] => i.place?.map fun (i : Int) ↦
      let k : Nat := (if i < 0 then i + (ts.length : Int) else i).toNat
      ts.take k ++ t :: ts.drop k
  | "pop", [] => dropAt (-1)
  | "pop", [i] => i.place?.bind dropAt
  | "sort", [] => (sortedRow ts).toOption
  | _, _ => none

/-- What becomes of a dictionary by a method that changes it. -/
def changedDict? (items : List Declared) (name : String) (args : List Declared)
    (named : List (String × Declared)) : Option (List Declared) :=
  let withNamed (made : List Declared) : List Declared :=
    named.foldl (fun made n ↦ putPair (ofText n.1) n.2 made) made
  match name, args with
  | "update", [] => some (withNamed items)
  | "update", [t] => (putAll items t).toOption.map withNamed
  | "clear", [] => some []
  | "setdefault", [k] => some (if (valueAt? k items).isSome then items else putPair k nothing items)
  | "setdefault", [k, v] => some (if (valueAt? k items).isSome then items else putPair k v items)
  | "pop", k :: _ => some (dropKey k items)
  | "popitem", [] => some (items.dropLast.dropLast)
  | _, _ => none

def changedSet? (ts : List Declared) (name : String) (args : List Declared) :
    Option (List Declared) :=
  match name, args with
  | "add", [t] => some (distinct (ts ++ [t]))
  | "discard", [t] | "remove", [t] => some (ts.filter fun u ↦ !alike u t)
  | "clear", [] => some []
  | "pop", [] => some (ts.drop 1)
  | "update", us => changed us .or
  | "difference_update", us => changed us .subtract
  | "intersection_update", us => changed us .and
  | "symmetric_difference_update", us => changed us .xor
  | _, _ => none
where
  /-- The items of the set by an operator with the elements of other things, one after the other. -/
  changed (us : List Declared) (op : BinaryOp) : Option (List Declared) :=
    (us.mapM elements?).map fun rows ↦
      rows.foldl (fun made row ↦ (setItems? op made (distinct row)).getD made) ts

/-- What becomes of a thing by one of its methods, if that changes it. -/
def changed? (t : Declared) (name : String) (args : List Declared)
    (named : List (String × Declared)) :
    Option Declared :=
  match t.series?, t with
  | some (.list, ts), _ => (changedList? ts name args).map (rowOf .list)
  | none, .row .dict items => (changedDict? items name args named).map (.row .dict)
  | none, .row .set ts => (changedSet? ts name args).map (.row .set)
  | _, _ => none

/-! ## Modules -/

/-- The modules that are known, with the names that they hold. -/
def modules : List (String × List (String × Declared)) := [
  ("builtins", standardNames),
  ("datetime", [("datetime", .base .moment), ("date", .base .date), ("MINYEAR", .constant (.int 1)),
    ("MAXYEAR", .constant (.int 9999))]),
  ("decimal", [("Decimal", .base .decimal)]),
  ("fractions", [("Fraction", .base .ratio), ("Decimal", .base .decimal)]),
  ("typing", [("Any", .base .any), ("ClassVar", .special .classVar),
    ("Optional", .special .optional), ("Union", .special .union), ("Literal", .special .literal),
    ("Text", .base .text)] ++
    families.map fun f ↦ (f.aliasName, .container f .alias)),
  ("collections", [("deque", .container .deque .plain)]),
  ("dataclasses", [("InitVar", .other passedClass)])]
where
  /-- The containers that have an alias. -/
  families : List Family := [.list, .tuple, .dict, .set, .frozenset, .deque, .sequence,
    .mutableSequence, .collection, .iterable, .iterator, .mapping, .abstractSet]

def otherModules : List String := listed (
  "abc argparse array ast asyncio base64 bisect calendar cmath codecs contextlib copy csv " ++
  "ctypes dis email enum errno functools gc glob hashlib heapq html http importlib inspect io " ++
  "itertools json keyword locale logging math numbers operator os pathlib pickle platform " ++
  "pprint queue random re shutil signal socket sqlite3 ssl statistics string struct subprocess " ++
  "sys tempfile textwrap threading time tokenize traceback types unicodedata unittest urllib " ++
  "uuid warnings weakref xml zipfile zlib zoneinfo")

def moduleNamed (name : String) : Declared :=
  .reader ⟨"<module '" ++ name ++ "'>", name, "module", .refusal⟩

def importModule (args : List Declared) : Except Fault Declared :=
  match args with
  | [] => misuse "__import__() missing required argument 'name' (pos 1)"
  | .constant (.text s) :: _ =>
    let top := (s.splitOn ".").headD s
    if s.isEmpty then .error (.badValue "Empty module name")
    else if (modules.lookup s).isSome || s == "collections.abc" then .ok (moduleNamed top)
    else if otherModules.contains top || (modules.lookup top).isSome then
      .error (.unsupported "__import__")
    else .error (.foreign "ModuleNotFoundError" ("No module named '" ++ s ++ "'"))
  | _ => misuse "module name must be a string"

/-- What stands behind a point, unless that is a method of the thing's own. -/
def plainMember (known : String → Option Enumeration) (t : Declared) (s : String) :
    Except Fault Declared :=
  match t with
  | .reader r =>
    if r.family == "module" then match (modules.lookup r.label).bind fun names ↦ names.lookup s with
      | some u => .ok u
      | none =>
        if s == "__name__" then .ok (ofText r.label) else .error (.unsupported s)
    else if s == "__class__" then classOf known t
    else if r.family == "function" then
      if s == "__name__" then .ok (ofText r.label)
      else if s == "__qualname__" then .ok (ofText (callName t |>.dropEnd 2).toString)
      else if isReserved s then .error (.unsupported s)
      else .error (.noAttribute ("'function' object has no attribute '" ++ s ++ "'"))
    else if r.family == "method_descriptor" || r.family == "wrapper_descriptor" then
      match s, (callName t).splitOn "." with
      | "__name__", [_, name] => .ok (ofText (name.dropEnd 2).toString)
      | "__qualname__", [owner, name] => .ok (ofText (owner ++ "." ++ (name.dropEnd 2).toString))
      | _, _ => memberOf known t s
    else memberOf known t s
  | t => memberOf known t s

end TypedSearch.Declared
