import TypedSearch.Text.Quoted

/-!
# Faults

Everything that can go wrong, by cause. `Fault.kind` names the class a fault is reported under and
`Fault.message` words it; both are part of what callers see.

`Fault.isDomain` separates the faults this library raises about documents, responses and transport
from those that escape from elsewhere: only the former let a lenient reader pass over a record.

## What is covered

A fault is its class and its wording. The chain of its causes and its place in the program are left
out.
-/

namespace TypedSearch

open Text

/-- Why a reader refused a text. -/
inductive Reason where
  | badText
  | badType
  | divisionByZero
  | undefinedOperation
  /-- Arithmetic fails in another way, which is reported under a class of its own. -/
  | arithmetic (kind : String)
deriving DecidableEq, Repr

def Reason.kind : Reason → String
  | .badText => "ValueError"
  | .badType => "TypeError"
  | .divisionByZero => "ZeroDivisionError"
  | .undefinedOperation => "InvalidOperation"
  | .arithmetic kind => kind

/-- What can go wrong with a single wire value: a text that does not read as the target, or a key
that is looked up in vain. -/
inductive ElementFault where
  | unreadable (text target : String) (reason : Option Reason)
  /-- A key, given by its text in messages, is looked up in vain. -/
  | unknownKey (shown : String)
deriving DecidableEq, Repr

namespace ElementFault

def kind : ElementFault → String
  | .unreadable .. => "TypeCoercionError"
  | .unknownKey _ => "KeyError"

def message : ElementFault → String
  | .unreadable text target _ => "Cannot convert " ++ quoted text ++ " to " ++ target
  | .unknownKey shown => shown

end ElementFault

/-- What can be wrong with the envelope of a response. -/
inductive ResponseFault where
  | malformed
  | wrongRoot (tag : String)
  | noResult
  | noCount
  | badCount (text : String)
  | unnamedField (tag : String)
deriving DecidableEq, Repr

def ResponseFault.message : ResponseFault → String
  | .malformed => "Response is not well-formed XML: ..."
  | .wrongRoot tag => "Expected <response> root, got <" ++ tag ++ ">"
  | .noResult => "Response has no <result> node"
  | .noCount => "<result> node has no 'numFound' attribute"
  | .badCount text => "Invalid numFound value: " ++ quoted text
  | .unnamedField tag => "<" ++ tag ++ "> field node without a 'name' attribute"

/-- Why something cannot serve as a document type. -/
inductive DocumentTypeFault where
  | notAClass (shown : String)
  | frozen (name : String)
  | needsArguments (name : String) (required : List String)
  | unresolved (name detail : String)
deriving DecidableEq, Repr

def DocumentTypeFault.message : DocumentTypeFault → String
  | .notAClass shown => "Document type must be a class, got " ++ shown
  | .frozen name => name ++ " is a frozen dataclass; members must be assignable"
  | .needsArguments name required =>
    name ++ " needs a parameterless constructor; required: " ++ ", ".intercalate required
  | .unresolved name detail => "Cannot resolve annotations of " ++ name ++ ": " ++ detail

/-- How a request can break the rules of the query builder. -/
inductive RequestFault where
  | negative (name value : String)
  | noRange
deriving DecidableEq, Repr

def RequestFault.message : RequestFault → String
  | .negative name value => name ++ " must be >= 0, got " ++ value
  | .noRange => "No range clause to toggle"

/-- Everything that can go wrong. -/
inductive Fault where
  /-- A single value does not convert. -/
  | element (e : ElementFault)
  /-- A container type is no supported shape, or one of its elements does not convert. -/
  | collection (declared : String) (cause : Option ElementFault)
  | response (r : ResponseFault)
  /-- A strict mapping meets a wire name that no member answers to. -/
  | unmapped (wireName typeName : String)
  | documentType (d : DocumentTypeFault)
  | connection (message : String) (status : Option Int)
  | request (r : RequestFault)
  | badSort (text : String)
  | badOrder (name : String)
  | badSpecifier (text : String)
  | notAClass (specifier : String)
  | unknownLevel (name : String)
  | tooManyDigits
  | noClauses
  | outOfRange
  /-- A place that is too far off to be looked at. -/
  | beyondIndex
  /-- A custom reader gives up with a message of its own. -/
  | failed (message : String)
  | unknownEncoding (name : String)
  /-- A name stands for something other than an encoding of text. -/
  | notTextEncoding (name : String)
  | wideEncoding
  | unknownModule (name : String) (detail : String)
  | wrongType (message : String)
  | undefinedName (name : String)
  /-- A name that a place binds stands for nothing yet: the place itself or, if not, one around
  it. -/
  | unboundName (name : String) (isLocal : Bool)
  | noAttribute (message : String)
  | calendarOverflow
  | undefinedOperation
  /-- A text in place of a type is no expression. -/
  | badTypeText (text : String)
  | nullInTypeText
  /-- A place behind the end of a row is looked at. -/
  | beyondEnd (row : String)
  /-- A key, given by its text in messages, is looked up in vain. -/
  | unknownKey (shown : String)
  | badValue (message : String)
  | divisionByZero (message : String)
  | overflow (message : String)
  /-- Something has a meaning that is not worked out here. -/
  | unsupported (what : String)
  /-- A text is no decimal number. -/
  | badDecimal
  | badMemberName
  /-- A failure of the transport below that is no request failure. -/
  | foreign (kind message : String)
deriving DecidableEq, Repr

namespace Fault

abbrev unreadable (text target : String) (reason : Option Reason) : Fault :=
  .element (.unreadable text target reason)

def kind : Fault → String
  | .element e => e.kind
  | .collection .. => "CollectionTypeNotSupportedError"
  | .response _ => "ResponseFormatError"
  | .unmapped .. => "UnmappedFieldError"
  | .documentType _ => "DocumentTypeError"
  | .connection .. => "SolrConnectionError"
  | .request _ => "QueryBuilderError"
  | .badSort _ | .badOrder _ | .badSpecifier _ | .notAClass _ | .unknownLevel _
  | .tooManyDigits | .wideEncoding | .nullInTypeText | .badValue _ => "ValueError"
  | .noClauses | .outOfRange | .beyondIndex | .beyondEnd _ => "IndexError"
  | .unknownKey _ => "KeyError"
  | .divisionByZero _ => "ZeroDivisionError"
  | .failed _ => "RuntimeError"
  | .unknownEncoding _ | .notTextEncoding _ => "LookupError"
  | .unknownModule .. => "ModuleNotFoundError"
  | .wrongType _ => "TypeError"
  | .undefinedName _ | .unboundName _ false => "NameError"
  | .unboundName _ true => "UnboundLocalError"
  | .noAttribute _ => "AttributeError"
  | .calendarOverflow | .overflow _ => "OverflowError"
  | .unsupported _ => "NotImplementedError"
  | .undefinedOperation | .badDecimal => "InvalidOperation"
  | .badTypeText _ | .badMemberName => "SyntaxError"
  | .foreign kind _ => kind

def message : Fault → String
  | .element e => e.message
  | .collection declared cause =>
    "Collection type not supported: " ++ declared ++ match cause with
      | none => ""
      | some e => " (" ++ e.kind ++ ": " ++ e.message ++ ")"
  | .response r => r.message
  | .unmapped wireName typeName => "Field '" ++ wireName ++ "' not found on " ++ typeName
  | .documentType d => d.message
  | .connection message _ => message
  | .request r => r.message
  | .badSort text => "Invalid sort order: " ++ quoted text
  | .badOrder name => quoted name ++ " is not a valid Order"
  | .badSpecifier text =>
    "Document type must look like 'package.module:ClassName', got " ++ quoted text
  | .notAClass specifier => specifier ++ " is not a class"
  | .unknownLevel name => "Unknown level: " ++ quoted name
  | .tooManyDigits =>
    "Exceeds the limit (4300 digits) for integer string conversion; " ++
      "use sys.set_int_max_str_digits() to increase the limit"
  | .noClauses => "expression has no clauses"
  | .outOfRange => "tuple index out of range"
  | .beyondIndex => "cannot fit 'int' into an index-sized integer"
  | .failed message => message
  | .unknownEncoding name => "unknown encoding: " ++ name
  | .notTextEncoding name =>
    quoted name ++ " is not a text encoding; use codecs.decode() to handle arbitrary codecs"
  | .wideEncoding => "multi-byte encodings are not supported"
  | .unknownModule name detail => "No module named " ++ quoted name ++ detail
  | .wrongType message => message
  | .undefinedName name => "name '" ++ name ++ "' is not defined"
  | .unboundName name isLocal =>
    "cannot access " ++ (if isLocal then "local" else "free") ++ " variable '" ++ name ++
      "' where it is not associated with a value" ++ if isLocal then "" else " in enclosing scope"
  | .noAttribute message => message
  | .calendarOverflow => "date value out of range"
  | .undefinedOperation => "[<class 'decimal.InvalidOperation'>]"
  | .badTypeText text => "Forward reference must be an expression -- got " ++ quoted text
  | .nullInTypeText => "source code string cannot contain null bytes"
  | .beyondEnd row => if row.isEmpty then "index out of range" else row ++ " index out of range"
  | .unknownKey shown => shown
  | .badValue message => message
  | .divisionByZero message => message
  | .overflow message => message
  | .unsupported what => what ++ " is not worked out"
  | .badDecimal => "[<class 'decimal.ConversionSyntax'>]"
  | .badMemberName => "invalid syntax"
  | .foreign _ message => message

/-- Is the fault one about documents, responses or transport? -/
def isDomain : Fault → Bool
  | .element (.unreadable ..) | .collection .. | .response _ | .unmapped .. | .documentType _
  | .connection .. => true
  | _ => false

/-- The fault as one of a single wire value, if it is a failed conversion or a key that is looked up
in vain. -/
def asElement? : Fault → Option ElementFault
  | .element e => some e
  | .unknownKey shown => some (.unknownKey shown)
  | _ => none

def cause? : Fault → Option String
  | .element (.unreadable _ _ reason) => reason.map Reason.kind
  | .collection _ cause => cause.map ElementFault.kind
  | _ => none

end Fault

end TypedSearch
