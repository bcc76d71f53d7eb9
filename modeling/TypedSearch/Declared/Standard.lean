import TypedSearch.Declared.Basic

/-!
# Names that need no declaration

The classes, functions and constants that an annotation may name wherever it stands.
-/

namespace TypedSearch.Declared

/-! ## Classes -/

def standardClass (name : String) (isContainer takesArguments : Bool) (making : Making) :
    Declared :=
  .other ⟨⟨"", name⟩, isContainer, takesArguments, making⟩

def exceptionNames : List String := [
  "ArithmeticError", "AssertionError", "AttributeError", "BaseException", "BlockingIOError",
  "BrokenPipeError", "BufferError", "BytesWarning", "ChildProcessError", "ConnectionAbortedError",
  "ConnectionError", "ConnectionRefusedError", "ConnectionResetError", "DeprecationWarning",
  "EOFError", "EncodingWarning", "Exception", "FileExistsError", "FileNotFoundError",
  "FloatingPointError", "FutureWarning", "GeneratorExit", "ImportError", "ImportWarning",
  "IndentationError", "IndexError", "InterruptedError", "IsADirectoryError", "KeyboardInterrupt",
  "LookupError", "MemoryError", "ModuleNotFoundError", "NameError", "NotADirectoryError",
  "NotImplementedError", "OSError", "OverflowError", "PendingDeprecationWarning",
  "PermissionError", "ProcessLookupError", "RecursionError", "ReferenceError", "ResourceWarning",
  "RuntimeError", "RuntimeWarning", "StopAsyncIteration", "StopIteration", "SyntaxError",
  "SyntaxWarning", "SystemError", "SystemExit", "TabError", "TimeoutError", "TypeError",
  "UnboundLocalError", "UnicodeError", "UnicodeWarning", "UserWarning", "ValueError", "Warning",
  "ZeroDivisionError"]

def demandingExceptions : List (String × Bool) := [
  ("BaseExceptionGroup", true), ("ExceptionGroup", true), ("UnicodeDecodeError", false),
  ("UnicodeEncodeError", false), ("UnicodeTranslateError", false)]

/-- The exceptions that build on a class beside the most common one, by the name of that class. -/
def exceptionFamilies : List (String × List String) := [
  ("object", ["BaseException"]),
  ("BaseException", ["BaseExceptionGroup", "Exception", "GeneratorExit", "KeyboardInterrupt",
    "SystemExit"]),
  ("ArithmeticError", ["FloatingPointError", "OverflowError", "ZeroDivisionError"]),
  ("ConnectionError", ["BrokenPipeError", "ConnectionAbortedError", "ConnectionRefusedError",
    "ConnectionResetError"]),
  ("ImportError", ["ModuleNotFoundError"]), ("IndentationError", ["TabError"]),
  ("LookupError", ["IndexError", "KeyError"]), ("NameError", ["UnboundLocalError"]),
  ("OSError", ["BlockingIOError", "ChildProcessError", "ConnectionError", "FileExistsError",
    "FileNotFoundError", "InterruptedError", "IsADirectoryError", "NotADirectoryError",
    "PermissionError",
    "ProcessLookupError", "TimeoutError"]),
  ("RuntimeError", ["NotImplementedError", "RecursionError"]),
  ("SyntaxError", ["IndentationError"]),
  ("UnicodeError", ["UnicodeDecodeError", "UnicodeEncodeError", "UnicodeTranslateError"]),
  ("ValueError", ["UnicodeError"]),
  ("Warning", ["BytesWarning", "DeprecationWarning", "EncodingWarning", "FutureWarning",
    "ImportWarning", "PendingDeprecationWarning", "ResourceWarning", "RuntimeWarning",
    "SyntaxWarning", "UnicodeWarning",
    "UserWarning"])]

/-- The names of the exceptions that one builds on, itself first, up to `fuel` of them. -/
def exceptionLine : Nat → String → List String
  | 0, _ => []
  | fuel + 1, name =>
    if name == "object" then []
    else name :: exceptionLine fuel
      (((exceptionFamilies.find? fun f ↦ f.2.contains name).map Prod.fst).getD "Exception")

def exceptionClasses : List (String × Declared) :=
  exceptionNames.map (fun n ↦ (n, standardClass n false false (.exception false))) ++
    demandingExceptions.map (fun n ↦ (n.1, standardClass n.1 false n.2 .refusal)) ++
    [("KeyError", standardClass "KeyError" false false (.exception true)),
      ("EnvironmentError", standardClass "OSError" false false (.exception false)),
      ("IOError", standardClass "OSError" false false (.exception false))]

/-- The classes that hold many values without being read as containers. -/
def seriesClasses : List (String × Declared) :=
  ["filter", "map", "memoryview", "range", "reversed", "zip"].map
      (fun n ↦ (n, standardClass n true false .refusal)) ++
    [("enumerate", standardClass "enumerate" true true .refusal)]

def plainClasses : List (String × Declared) := [
  ("int", .base .int), ("str", .base .text), ("bool", .base .bool), ("float", .base .float),
  ("object", .base .object), ("bytes", .base .bytes), ("bytearray", .base .bytearray),
  ("list", .container .list .plain), ("tuple", .container .tuple .plain),
  ("dict", .container .dict .plain), ("set", .container .set .plain),
  ("frozenset", .container .frozenset .plain),
  ("complex", standardClass "complex" false false .complexNumber),
  ("type", standardClass "type" false true .classOfText),
  ("slice", standardClass "slice" false false (.wrapped "slice(None, " ", None)" false)),
  ("classmethod", standardClass "classmethod" false false (.wrapped "<classmethod(" ")>" false)),
  ("staticmethod", standardClass "staticmethod" false false (.wrapped "<staticmethod(" ")>" false)),
  ("property", standardClass "property" false false (.wrapped "<property of " ">" true)),
  ("super", standardClass "super" false false .refusal)]

/-! ## Functions -/

def readings : List (String × Reading) := [
  ("all", .always true), ("any", .isPresent), ("ascii", .asciiQuotation),
  ("callable", .always false), ("format", .itself), ("len", .length), ("max", .greatest),
  ("min", .least), ("ord", .codePoint), ("print", .printing), ("repr", .quotation),
  ("sorted", .sorting), ("sum", .total)]

def refusingFunctions : List String := [
  "__build_class__", "abs", "aiter", "anext", "bin", "breakpoint", "chr", "compile", "delattr",
  "divmod", "getattr", "globals", "hasattr", "hex", "isinstance", "issubclass", "locals", "next",
  "oct", "pow", "round", "setattr", "vars"]

/-- The functions that do something with a text which is not worked out here. -/
def otherFunctions : List String := [
  "__import__", "dir", "eval", "exec", "hash", "id", "input", "iter", "open"]

def function (name : String) (reading : Reading) : String × Declared :=
  (name, .reader ⟨"<built-in function " ++ name ++ ">", name, "builtin_function_or_method",
    reading⟩)

def functions : List (String × Declared) :=
  readings.map (fun r ↦ function r.1 r.2) ++ refusingFunctions.map (function · .refusal) ++
    otherFunctions.map fun name ↦ function name (.beyond name)

/-! ## Constants -/

def helper (name family shown : String) (reading : Reading) : String × Declared :=
  (name, .reader ⟨shown, shown, family, reading⟩)

def constants : List (String × Declared) := [
  ("Ellipsis", .rest), ("__debug__", .constant (.bool true)),
  ("NotImplemented", .constant (.thing
    ⟨"NotImplementedType", "NotImplemented", "NotImplemented", true, true⟩)),
  helper "exit" "Quitter" "Use exit() or Ctrl-D (i.e. EOF) to exit" (.beyond "exit"),
  helper "quit" "Quitter" "Use quit() or Ctrl-D (i.e. EOF) to exit" (.beyond "quit"),
  helper "help" "_Helper" "Type help() for interactive help, or help(object) for help about object."
    (.beyond "help"),
  helper "license" "_Printer" "Type license() to see the full license text" .refusal]

/-- The class whose types mark the members that the constructor of a dataclass takes and does not
store. -/
def passedClass : OtherClass :=
  ⟨⟨"dataclasses", "InitVar"⟩, false, true, .wrapped "dataclasses.InitVar[" "]" true⟩

/-- All names that need no declaration, with what they stand for. -/
def standardNames : List (String × Declared) :=
  plainClasses ++ functions ++ constants ++ seriesClasses ++ exceptionClasses

/-- The name of a function, or of a class beside those with values of their own, that needs no
declaration; nothing for anything else. -/
def standardName (t : Declared) : String :=
  let known (name : String) : String := if standardNames.lookup name == some t then name else ""
  match t with
  | .reader r => known r.label
  | .other c => known c.className.name
  | _ => ""

end TypedSearch.Declared
