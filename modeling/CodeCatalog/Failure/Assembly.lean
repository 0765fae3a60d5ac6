/-
Reports assembled from named arguments.

For each code there are the arguments that its report is made of. A report can also be given a code
and a message of its own. Nothing checks what the arguments are, so that what comes of them is a
`LooseReport`, whose parts are whatever was given for them.
-/
import CodeCatalog.Failure

set_option autoImplicit false

namespace CodeCatalog

open Json

/-- The arguments that the report of a code is made of. -/
def ErrorCode.argumentNames : ErrorCode → List String
  | configParseError => ["path", "reason"]
  | configInvalidValue => ["field", "value", "reason"]
  | indexOpenFailed => ["path", "reason"]
  | indexLocked => ["path"]
  | indexWriteFailed => ["operation", "reason"]
  | indexClosed => ["operation"]
  | validationMissingArgument => ["name"]
  | validationKindMismatch => ["variant", "kind", "allowed"]
  | validationMalformedRecord => ["reason"]

/-- Whether a report takes further arguments as details. -/
def ErrorCode.takesDetails : ErrorCode → Bool
  | validationMalformedRecord => true
  | _ => false

/-- The family of errors that a code belongs to, as messages name it. -/
def ErrorCode.family : ErrorCode → String
  | configParseError | configInvalidValue => "ConfigError"
  | indexOpenFailed | indexLocked | indexWriteFailed | indexClosed => "SearchIndexError"
  | validationMissingArgument | validationKindMismatch | validationMalformedRecord =>
    "InvalidElementError"

/-- The name of the assembly of a code within its family. -/
def ErrorCode.assembly : ErrorCode → String
  | configParseError => "parse_error"
  | configInvalidValue => "invalid_value"
  | indexOpenFailed => "open_failed"
  | indexLocked => "locked"
  | indexWriteFailed => "write_failed"
  | indexClosed => "closed"
  | validationMissingArgument => "missing_argument"
  | validationKindMismatch => "kind_mismatch"
  | validationMalformedRecord => "malformed_record"

/-- A report whose parts are whatever was given for them. -/
structure LooseReport where
  code : ErrorCode
  message : Value
  retryable : Value := .bool false
  details : Value := .object []
  deriving Repr

namespace LooseReport

/-- A report, loosely. -/
def ofReport (r : Report) : LooseReport where
  code := r.code
  message := .text r.message
  retryable := .bool r.retryable
  details := .object r.details

/-- One line for a user: the code, its name and the message. -/
def text (r : LooseReport) : String :=
  "[" ++ toString r.code.number ++ "] " ++ r.code.name ++ ": " ++ describe r.message

/-- A loose report as a record. -/
def toRecord (r : LooseReport) : Value :=
  .object [("code", .int r.code.number), ("error", .text r.code.name),
    ("message", r.message), ("retryable", r.retryable), ("details", r.details)]

/-- The argument with a name, null if it is absent. -/
def argument (args : Fields) (name : String) : Value :=
  (args.get? name).getD .null

/-- The texts that a value enumerates: the items of a list, the characters of a text, the keys of an
object. -/
def enumerated : Value → Except Fault (List String)
  | .list items => (items.mapIdx Prod.mk).mapM fun
    | (_, .text s) => .ok s
    | (i, v) => .error (.itemNotText i v)
  | .text s => .ok (s.toList.map String.singleton)
  | .object fields => .ok (fields.map (·.1))
  | _ => .error .notEnumerable

/-- The report of a variant that cannot carry a kind. What was given as the kinds that it can carry
stays in the details as it is. -/
def kindMismatch (variant kind allowed : Value) : Except Fault Report := do
  let r := Report.kindMismatch variant kind (← enumerated allowed)
  return { r with details := r.details.put "allowed" allowed }

/-- The report of a code, made of its arguments. -/
def reportOf (code : ErrorCode) (args : Fields) : Except Fault Report :=
  let arg := argument args
  match code with
  | .configParseError => .ok (.configParse (arg "path") (arg "reason"))
  | .configInvalidValue =>
    .ok (.configValue (arg "field") (describe (arg "value")) (arg "reason"))
  | .indexOpenFailed => .ok (.openFailed (arg "path") (arg "reason"))
  | .indexLocked => .ok (.locked (arg "path"))
  | .indexWriteFailed => .ok (.writeFailed (arg "operation") (arg "reason"))
  | .indexClosed => .ok (.closed (arg "operation"))
  | .validationMissingArgument => .ok (.missingArgument (arg "name"))
  | .validationKindMismatch => kindMismatch (arg "variant") (arg "kind") (arg "allowed")
  | .validationMalformedRecord => .ok (.malformedRecord (arg "reason") (args.erase "reason"))

/-- Fail on an argument that is not taken, or on the ones that are needed and absent. -/
def checkArguments (callee : String) (needs : List String) (takes : String → Bool)
    (args : Fields) : Except Fault Unit :=
  match args.find? fun (name, _) => !takes name with
  | some (name, _) => .error (.unexpectedArgument callee name)
  | none =>
    let missing := needs.filter fun name => (args.get? name).isNone
    if missing.isEmpty then .ok () else .error (.missingArguments callee "positional" missing)

/-- Where messages about a call as a whole find the callee. -/
def qualified (callee : String) : String :=
  "codeindexer.core.errors." ++ callee

/-- Arguments together with further ones. None may be given twice. -/
def joinArguments (callee : String) (args : Fields) : Option Value → Except Fault Fields
  | none => .ok args
  | some (.object more) =>
    match more.find? fun (name, _) => (args.get? name).isSome with
    | some (name, _) => .error (.clashingArgument (qualified callee) name)
    | none => .ok (args ++ more)
  | some v => .error (.notAMapping (qualified callee) v)

/-- Assemble the report of a code. Further arguments can be given as one of the name `extra`. -/
def assemble (code : ErrorCode) (given : Fields) : Except Fault LooseReport := do
  let callee := code.family ++ "." ++ code.assembly
  let args ← joinArguments callee (given.erase "extra") (given.get? "extra")
  let needs := code.argumentNames
  let takes := fun name =>
    needs.contains name || (code.takesDetails && name ≠ receiverName callee)
  checkArguments callee needs takes args
  return ofReport (← reportOf code args)

/-- Assemble the report of the code with a name in a family. -/
def assembleNamed (family name : String) (given : Fields) : Except Fault LooseReport :=
  match ErrorCode.all.find? fun code => code.family = family ∧ code.assembly = name with
  | some code => assemble code given
  | none => .error (.noAssembly family name)

/-- The code that an argument names. -/
def codeOf (v : Value) : Except Fault ErrorCode :=
  let named := match v with
    | .int n => ErrorCode.ofNumber? n
    | .real x => x.toInt?.bind ErrorCode.ofNumber?
    | _ => none
  match named with
  | some code => .ok code
  | none => .error (.notACode v)

/-- The arguments of a report with a code and a message of its own. -/
def plainNames : List String := ["code", "message", "retryable", "details"]

/-- Assemble a report with a code and a message of its own. The code is looked up first. -/
def assemblePlain (args : Fields) : Except Fault LooseReport := do
  let code ← ((args.get? "code").map codeOf).getD (.ok default)
  checkArguments "CodeIndexerError.__init__" ["code", "message"] plainNames.contains args
  return {
    code
    message := argument args "message"
    retryable := (args.get? "retryable").getD (.bool false)
    details := (args.get? "details").getD (.object []) }

end LooseReport

end CodeCatalog
