/-
Everything that can go wrong, as causes.

* A `CatalogError` is an error of the catalogue itself. It has a code, a message and details, and is
  what callers are told to expect.
* A `Fault` comes from below: from the language of texts and numbers, from the search engine, or
  from the file system. `Fault.sort` groups faults for the places that catch some of them.

A `Failure` is either.
-/
import CodeCatalog.Element.Field
import CodeCatalog.Json.Printer
import CodeCatalog.Text.Digits

set_option autoImplicit false

namespace CodeCatalog

open Json

/-! ## Error codes -/

/-- The code of a catalogue error. -/
inductive ErrorCode
  | configParseError
  | configInvalidValue
  | indexOpenFailed
  | indexLocked
  | indexWriteFailed
  | indexClosed
  | validationMissingArgument
  | validationKindMismatch
  | validationMalformedRecord
  deriving Repr, DecidableEq, Inhabited

namespace ErrorCode

/-- The number of a code: 2xxx for the configuration, 3xxx for the index, 4xxx for arguments. -/
def number : ErrorCode → Nat
  | configParseError => 2001
  | configInvalidValue => 2002
  | indexOpenFailed => 3001
  | indexLocked => 3002
  | indexWriteFailed => 3003
  | indexClosed => 3004
  | validationMissingArgument => 4001
  | validationKindMismatch => 4002
  | validationMalformedRecord => 4003

/-- The name of a code. -/
def name : ErrorCode → String
  | configParseError => "CONFIG_PARSE_ERROR"
  | configInvalidValue => "CONFIG_INVALID_VALUE"
  | indexOpenFailed => "INDEX_OPEN_FAILED"
  | indexLocked => "INDEX_LOCKED"
  | indexWriteFailed => "INDEX_WRITE_FAILED"
  | indexClosed => "INDEX_CLOSED"
  | validationMissingArgument => "VALIDATION_MISSING_ARGUMENT"
  | validationKindMismatch => "VALIDATION_KIND_MISMATCH"
  | validationMalformedRecord => "VALIDATION_MALFORMED_RECORD"

/-- All codes. -/
def all : List ErrorCode := [
  configParseError, configInvalidValue, indexOpenFailed, indexLocked, indexWriteFailed,
  indexClosed, validationMissingArgument, validationKindMismatch, validationMalformedRecord]

/-- The code with a number. -/
def ofNumber? (n : Int) : Option ErrorCode :=
  all.find? fun c => (c.number : Int) = n

end ErrorCode

/-! ## Reports -/

/-- A catalogue error as its callers see it. -/
structure Report where
  code : ErrorCode
  message : String
  retryable : Bool := false
  details : Fields := []
  deriving Repr, DecidableEq

namespace Report

/-- One line for a user: the code, its name and the message. -/
def text (r : Report) : String :=
  "[" ++ toString r.code.number ++ "] " ++ r.code.name ++ ": " ++ r.message

/-- A report as a record. -/
def toRecord (r : Report) : Value :=
  .object [("code", .int r.code.number), ("error", .text r.code.name),
    ("message", .text r.message), ("retryable", .bool r.retryable), ("details", .object r.details)]

/-- A configuration file that cannot be read. -/
def configParse (path reason : Value) : Report where
  code := .configParseError
  message := "Failed to parse config at " ++ describe path ++ ": " ++ describe reason
  details := [("path", path), ("reason", reason)]

/-- A setting with a value that is not allowed. -/
def configValue (field : Value) (value : String) (reason : Value) : Report where
  code := .configInvalidValue
  message := "Invalid value for '" ++ describe field ++ "': " ++ describe reason
  details := [("field", field), ("value", .text value), ("reason", reason)]

/-- An index that cannot be opened. -/
def openFailed (path reason : Value) : Report where
  code := .indexOpenFailed
  message := "Failed to open search index at " ++ describe path ++ ": " ++ describe reason
  details := [("path", path), ("reason", reason)]

/-- An index that another writer holds. -/
def locked (path : Value) : Report where
  code := .indexLocked
  message := "Search index at " ++ describe path ++ " is already open by another writer"
  retryable := true
  details := [("path", path)]

/-- A write that failed and was undone. -/
def writeFailed (operation reason : Value) : Report where
  code := .indexWriteFailed
  message := describe operation ++ " failed: " ++ describe reason
  details := [("operation", operation), ("reason", reason)]

/-- An operation on an index that is not open. -/
def closed (operation : Value) : Report where
  code := .indexClosed
  message := "Cannot " ++ describe operation ++ ": search index is not open"
  details := [("operation", operation)]

/-- An argument that is absent or empty. -/
def missingArgument (name : Value) : Report where
  code := .validationMissingArgument
  message := "Missing required argument: " ++ describe name
  details := [("argument", name)]

/-- A variant that cannot carry a kind. -/
def kindMismatch (variant kind : Value) (allowed : List String) : Report where
  code := .validationKindMismatch
  message := describe variant ++ " cannot carry kind '" ++ describe kind ++ "' (allowed: " ++
    ", ".intercalate allowed ++ ")"
  details := [("variant", variant), ("kind", .text (describe kind)),
    ("allowed", .list (allowed.map .text))]

/-- A record that describes no element. -/
def malformedRecord (reason : Value) (details : Fields) : Report where
  code := .validationMalformedRecord
  message := "Malformed element record: " ++ describe reason
  details := details

end Report

/-! ## Catalogue errors -/

/-- Why a record describes no element. -/
inductive RecordFault
  | notObject
  | missingKind
  | unknownKind (kind : Value)
  | wrongType (kind : Kind) (field : String) (type : FieldType) (found : Value)
  | badLocation (kind : Kind)
  | badParameters (kind : Kind)
  /-- A field that `owner` (an element, a location or a parameter) does not have. -/
  | unknownField (kind : Kind) (owner field : String)
  deriving Repr, DecidableEq

/-- The wording for an argument that a callee gets twice. -/
def repeatedArgument (callee name : String) : String :=
  callee ++ "() got multiple values for argument '" ++ name ++ "'"

/-- The name under which a callee takes what it is called on. -/
def receiverName (callee : String) : String :=
  if callee.endsWith ".__init__" then "self" else "cls"

/-- The wording for an argument that a callee does not take, or has already: what it is called on.
-/
def unexpectedArgument (callee name : String) : String :=
  if name = receiverName callee then repeatedArgument callee name
  else callee ++ "() got an unexpected keyword argument '" ++ name ++ "'"

namespace RecordFault

/-- The reason in words. -/
def reason : RecordFault → String
  | notObject => "record is not an object"
  | missingKind => "missing 'kind'"
  | unknownKind k => "unknown kind '" ++ describe k ++ "'"
  | wrongType _ field type found =>
    "'" ++ field ++ "' must be " ++ type.name ++ ", got " ++ found.kindName
  | badLocation _ => "'location' must be an object"
  | badParameters _ => "'parameters' must be a list of objects"
  | unknownField _ owner field => unexpectedArgument (owner ++ ".__init__") field

/-- The details of the reason. -/
def details : RecordFault → Fields
  | notObject => []
  | missingKind => []
  | unknownKind k => [("kind", .text (describe k))]
  | wrongType k field _ _ => [("kind", .text k.name), ("field", .text field)]
  | badLocation k => [("kind", .text k.name), ("field", .text "location")]
  | badParameters k => [("kind", .text k.name), ("field", .text "parameters")]
  | unknownField k _ _ => [("kind", .text k.name)]

end RecordFault

/-- An error of the catalogue. -/
inductive CatalogError
  | configParse (path reason : String)
  /-- A setting, its value in words, and why it is refused. -/
  | configValue (field value reason : String)
  | openFailed (path reason : String)
  | locked (path : String)
  | writeFailed (operation reason : String)
  | closed (operation : String)
  | missingArgument (name : String)
  | kindMismatch (variant : String) (kind : Value) (allowed : List String)
  | malformedRecord (fault : RecordFault)
  deriving Repr, DecidableEq

namespace CatalogError

/-- The error as its callers see it. -/
def report : CatalogError → Report
  | configParse path reason => .configParse (.text path) (.text reason)
  | configValue field value reason => .configValue (.text field) value (.text reason)
  | openFailed path reason => .openFailed (.text path) (.text reason)
  | locked path => .locked (.text path)
  | writeFailed operation reason => .writeFailed (.text operation) (.text reason)
  | closed operation => .closed (.text operation)
  | missingArgument name => .missingArgument (.text name)
  | kindMismatch variant kind allowed => .kindMismatch (.text variant) kind allowed
  | malformedRecord fault => .malformedRecord (.text fault.reason) fault.details

/-- The code of an error. -/
def code (e : CatalogError) : ErrorCode := e.report.code

/-- The message of an error, without its code. -/
def message (e : CatalogError) : String := e.report.message

/-- One line for a user. -/
def text (e : CatalogError) : String := e.report.text

end CatalogError

/-! ## Faults -/

/-- The ways in which the file system refuses. -/
inductive FileFault
  | missing
  | isFolder
  | notFolder
  | exists
  /-- A name has more bytes than a folder can keep. -/
  | longName
  deriving Repr, DecidableEq, Inhabited

/-- Groups of faults. -/
inductive FaultSort
  | type
  | value
  | range
  | access
  | state
  | file
  | key
  | position
  | nesting
  deriving Repr, DecidableEq, Inhabited

/-- A fault from below the catalogue. -/
inductive Fault
  | unexpectedArgument (callee name : String)
  | repeatedArgument (callee name : String)
  /-- An argument was given both on its own and among others. -/
  | clashingArgument (callee name : String)
  /-- What should hold further arguments by their names is no object. -/
  | notAMapping (callee : String) (found : Value)
  /-- Arguments that were not given, with the word for how they are passed. -/
  | missingArguments (callee manner : String) (names : List String)
  | unsupportedVariant (name : String)
  | notAnElement
  | notIterable (found : Value)
  | noMember (found : Value) (name : String)
  /-- A family of errors has no assembly of a name. -/
  | noAssembly (family name : String)
  /-- What should be taken apart into words is no text. -/
  | notText (found : Value)
  /-- An item of an enumeration of texts is none. -/
  | itemNotText (position : Nat) (found : Value)
  | notEnumerable
  /-- A list or an object was looked up, which only plain values can be. -/
  | notLookedUp (found : Value)
  /-- What should follow a text is none. -/
  | notAppended (found : Value)
  /-- Two values were compared that have no order. -/
  | notOrdered (sign : String) (first second : Value)
  /-- What should be a number of things, under a name, is none. -/
  | notCountable (name : String) (found : Value)
  /-- A field of an index has no term for a value. -/
  | noTerm (field : String) (found : Value)
  /-- The last of nothing was asked for. -/
  | nothingLeft
  /-- A position outside a list. -/
  | noPosition
  | notAKind (found : Value)
  | notACode (found : Value)
  /-- A kind that is fixed was given again. -/
  | fixedKind
  | badWhole (text : String)
  /-- A text that is no whole number to another base than ten. -/
  | badDigits (base : Nat) (text : String)
  | badReal (text : String)
  | longWhole (digits : Nat)
  /-- A whole number is too long to be written. -/
  | numberTooLong
  /-- A number that is written with no character at all. -/
  | emptyNumber
  /-- A date or a time of day outside its range, and the range in words. -/
  | badMoment (reason : String)
  /-- A number beyond the last character. -/
  | noCharacter
  /-- A whole number outside the signed 64-bit range. -/
  | wholeTooWide
  /-- A number that should be an unsigned machine word is negative. -/
  | negativeWord
  /-- A number does not fit an unsigned machine word. -/
  | wordTooWide
  /-- The quotient of two whole numbers is beyond every floating-point value. -/
  | quotientTooLarge
  /-- A whole number is beyond every floating-point value. -/
  | wholeTooLarge
  | consumedWriter
  | noHome
  /-- A lock that is free was given back. -/
  | notLocked
  /-- A table that should have texts as keys has another key. -/
  | keyNotText
  | unknownKey (key : String)
  | badEncoding
  | tooDeep
  | file (fault : FileFault)
  /-- A fault that the engine was told to raise. -/
  | raised (sort : FaultSort) (message : String)
  deriving Repr, DecidableEq

/-- Names in a sentence. -/
def listNames : List String → String
  | [] => ""
  | [x] => x
  | [x, y] => x ++ " and " ++ y
  | xs => ", ".intercalate xs.dropLast ++ ", and " ++ xs.getLastD ""

namespace Fault

/-- The group of a fault. -/
def sort : Fault → FaultSort
  | unexpectedArgument _ _ => .type
  | repeatedArgument _ _ => .type
  | clashingArgument _ _ => .type
  | notAMapping _ _ => .type
  | missingArguments _ _ _ => .type
  | unsupportedVariant _ => .type
  | notAnElement => .type
  | notIterable _ => .type
  | noMember _ _ => .access
  | noAssembly _ _ => .access
  | notText _ => .type
  | itemNotText _ _ => .type
  | notEnumerable => .type
  | notLookedUp _ => .type
  | notAppended _ => .type
  | notOrdered _ _ _ => .type
  | notCountable _ _ => .type
  | noTerm _ _ => .value
  | nothingLeft => .position
  | noPosition => .position
  | notAKind _ => .value
  | notACode _ => .value
  | fixedKind => .value
  | badWhole _ => .value
  | badDigits _ _ => .value
  | badReal _ => .value
  | longWhole _ => .value
  | numberTooLong => .value
  | emptyNumber => .position
  | badMoment _ => .value
  | noCharacter => .value
  | wholeTooWide => .range
  | negativeWord => .range
  | wordTooWide => .range
  | quotientTooLarge => .range
  | wholeTooLarge => .range
  | consumedWriter => .state
  | noHome => .state
  | notLocked => .state
  | keyNotText => .type
  | unknownKey _ => .key
  | badEncoding => .value
  | tooDeep => .nesting
  | file _ => .file
  | raised s _ => s

/-- How much of a quoted text a message about its digits shows, in characters. -/
def maxShownDigits : Nat := 200

/-- The wording for a text that is no whole number to a base. -/
def badDigitsText (base : Nat) (s : String) : String :=
  "invalid literal for int() with base " ++ toString base ++ ": " ++
    String.ofList ((Text.quoted s).toList.take maxShownDigits)

/-- The wording of a fault. -/
def message : Fault → String
  | unexpectedArgument callee name => CodeCatalog.unexpectedArgument callee name
  | repeatedArgument callee name => CodeCatalog.repeatedArgument callee name
  | clashingArgument callee name =>
    callee ++ "() got multiple values for keyword argument '" ++ name ++ "'"
  | notAMapping callee v =>
    callee ++ "() argument after ** must be a mapping, not " ++ v.kindName
  | missingArguments callee manner names =>
    callee ++ "() missing " ++ toString names.length ++ " required " ++ manner ++
      (if names.length = 1 then " argument: " else " arguments: ") ++
      listNames (names.map fun n => "'" ++ n ++ "'")
  | unsupportedVariant name => "Unsupported element variant: " ++ name
  | notAnElement => "asdict() should be called on dataclass instances"
  | notIterable v => "'" ++ v.kindName ++ "' object is not iterable"
  | noMember v name =>
    "'" ++ v.kindName ++ "' object has no attribute '" ++ name ++ "'"
  | noAssembly family name =>
    "type object '" ++ family ++ "' has no attribute '" ++ name ++ "'"
  | notText v => "expected string or bytes-like object, got '" ++ v.kindName ++ "'"
  | itemNotText i v =>
    "sequence item " ++ toString i ++ ": expected str instance, " ++ v.kindName ++ " found"
  | notEnumerable => "can only join an iterable"
  | notLookedUp v => "unhashable type: '" ++ v.kindName ++ "'"
  | notAppended v => "can only concatenate str (not \"" ++ v.kindName ++ "\") to str"
  | notOrdered sign v w =>
    "'" ++ sign ++ "' not supported between instances of '" ++ v.kindName ++ "' and '" ++
      w.kindName ++ "'"
  | notCountable name v =>
    "argument '" ++ name ++ "': '" ++ v.kindName ++ "' object cannot be interpreted as an integer"
  | noTerm field (.object fields) =>
    "Can't create a term for Field \x60" ++ field ++ "\x60 with value \x60" ++
      describe (.object fields) ++ "\x60."
  | noTerm _ v => "Value unsupported " ++ describeInner v
  | nothingLeft => "pop from empty list"
  | noPosition => "pop index out of range"
  | notAKind v => describeInner v ++ " is not a valid ElementKind"
  | notACode v => describeInner v ++ " is not a valid ErrorCode"
  | fixedKind =>
    "field kind is declared with init=False, it cannot be specified with replace()"
  | badWhole s => badDigitsText 10 s
  | badDigits base s => badDigitsText base s
  | badReal s => "could not convert string to float: " ++ Text.quoted s
  | emptyNumber => "string index out of range"
  | badMoment reason => reason
  | noCharacter => "chr() arg not in range(0x110000)"
  | longWhole digits =>
    "Exceeds the limit (" ++ toString Text.maxWholeDigits ++
      " digits) for integer string conversion: value has " ++ toString digits ++
      " digits; use sys.set_int_max_str_digits() to increase the limit"
  | numberTooLong =>
    "Exceeds the limit (" ++ toString Text.maxWholeDigits ++
      " digits) for integer string conversion; " ++
      "use sys.set_int_max_str_digits() to increase the limit"
  | wholeTooWide => "Python int too large to convert to C long"
  | negativeWord => "can't convert negative int to unsigned"
  | wordTooWide => "int too big to convert"
  | quotientTooLarge => "integer division result too large for a float"
  | wholeTooLarge => "int too large to convert to float"
  | consumedWriter => "IndexWriter was consumed and no longer in a valid state"
  | noHome => "Could not determine home directory."
  | notLocked => "release unlocked lock"
  | keyNotText => "keywords must be strings"
  | unknownKey key => Text.quoted key
  | badEncoding => "invalid UTF-8"
  | tooDeep => "maximum recursion depth exceeded"
  | file .missing => "No such file or directory"
  | file .isFolder => "Is a directory"
  | file .notFolder => "Not a directory"
  | file .exists => "File exists"
  | file .longName => "File name too long"
  | raised _ m => m

/-- Whether a place that guards against file and value faults catches the fault. -/
def isFileOrValue (f : Fault) : Bool :=
  f.sort = .file || f.sort = .value

end Fault

/-- The text by which a value is looked up among texts; none if it is another plain value. -/
def keyOf : Value → Except Fault (Option String)
  | .text s => .ok (some s)
  | .list items => .error (.notLookedUp (.list items))
  | .object fields => .error (.notLookedUp (.object fields))
  | _ => .ok none

/-- The text that a value is, where case is to be ignored. -/
def caselessOf : Value → Except Fault String
  | .text s => .ok s
  | v => .error (.noMember v "lower")

/-- The kind that a value names. -/
def kindOf (v : Value) : Except Fault Kind :=
  match v with
  | .text s =>
    match Kind.ofName? s with
    | some k => .ok k
    | none => .error (.notAKind v)
  | _ => .error (.notAKind v)

/-- An error of the catalogue or a fault from below. -/
inductive Failure
  | catalog (error : CatalogError)
  | fault (fault : Fault)
  deriving Repr, DecidableEq

/-- The wording of a failure on its own. -/
def Failure.text : Failure → String
  | .catalog e => e.text
  | .fault f => f.message

end CodeCatalog
