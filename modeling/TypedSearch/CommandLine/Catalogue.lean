import TypedSearch.Annotation.Attribute
import TypedSearch.Document.Instance
import TypedSearch.Text.Blank

/-!
# Catalogues

The document types that a command line can name: `module:Class`, or `module:Class.member` for what a
class holds. A module inside a package goes by its full name, as in `package.module:Class`. What
loading a module does beyond giving its names is not part of this.
-/

namespace TypedSearch.CommandLine

open Text

/-- The names of a module with what they stand for. -/
structure Module where
  /-- The full name, with the packages around the module before it. -/
  name : String
  entries : List (String × Declared)
  isPackage : Bool := false
deriving DecidableEq

/-- The modules at hand, and the document types among what they name. -/
structure Catalogue where
  modules : List Module
  types : List DocumentType
deriving DecidableEq

def Module.ownNames : List String :=
  ["__name__", "__doc__", "__package__", "__loader__", "__spec__"]

def Module.entry (m : Module) (name : String) : Except Fault Declared :=
  match m.entries.lookup name with
  | some e => .ok e
  | none =>
    if Module.ownNames.contains name || m.isPackage && name == "__path__" then .ok (.constant .null)
    else .error (.noAttribute ("module '" ++ m.name ++ "' has no attribute '" ++ name ++ "'"))

/-- What the constructors of classes that are no document types have to be given. -/
def requiredBy : Declared → List String
  | .enumeration _ => ["value"]
  | .other c => match c.className.full with
    | "enumerate" => ["iterable"]
    | "memoryview" => ["object"]
    | "reversed" => ["sequence"]
    | _ => []
  | _ => []

namespace Catalogue

/-- The module at the end of a path, which is given from its end on. One that is not at hand is
looked for in the one around it, which is loaded first. -/
def moduleAt (c : Catalogue) : List String → Except Fault Module
  | [] => .error (.unknownModule "" "")
  | part :: around =>
    let name := ".".intercalate (part :: around).reverse
    match c.modules.find? (·.name == name) with
    | some m => .ok m
    | none =>
      if around.isEmpty then .error (.unknownModule name "")
      else do
        let parent ← c.moduleAt around
        throw (.unknownModule name
          (if parent.isPackage then "" else "; " ++ quoted parent.name ++ " is not a package"))

/-- The module with a name. A name with a point in front says where to begin, and there is no such
place. -/
def moduleNamed (c : Catalogue) (name : String) : Except Fault Module :=
  if name.toList.head? == some '.' then
    .error (.wrongType
      ("the 'package' argument is required to perform a relative import for " ++ quoted name))
  else c.moduleAt ((pieces (· == '.') name.toList).map String.ofList).reverse

def enumeration? (c : Catalogue) (family : String) : Option Enumeration :=
  (c.modules.flatMap Module.entries).findSome? fun e ↦ match e.2 with
    | .enumeration e => if e.className.name == family then some e else none
    | _ => none

/-- The document type that a class is; one without members, unless it is one of those at hand. -/
def typeOf? (c : Catalogue) (t : Declared) : Option DocumentType :=
  t.className?.map fun n ↦
    match t with
    | .document d => (c.types.find? (·.className == d.className)).getD (.ofClass n [])
    | t => .ofClass n (requiredBy t)

/-- What a path of attributes leads to; an attribute that is not worked out is no class. -/
def follow (c : Catalogue) (specifier : String) (t : Declared) : List String → Except Fault Declared
  | [] => .ok t
  | s :: path =>
    match t.memberOf c.enumeration? s, path with
    | .ok u, path => follow c specifier u path
    | .error (.unsupported _), [] => .error (.notAClass specifier)
    | .error f, _ => .error f

def documentType (c : Catalogue) (specifier : String) : Except Fault DocumentType :=
  match cut ':' specifier.toList with
  | (moduleName, some path) => do
    if moduleName.isEmpty || path.isEmpty then throw (.badSpecifier specifier)
    let m ← c.moduleNamed (.ofList moduleName)
    let path := (pieces (· == '.') path).map String.ofList
    let t ← c.follow specifier (← m.entry (path.headD "")) path.tail
    match c.typeOf? t with
    | some d => return d
    | none => .error (.notAClass specifier)
  | (_, none) => .error (.badSpecifier specifier)

end Catalogue

end TypedSearch.CommandLine
