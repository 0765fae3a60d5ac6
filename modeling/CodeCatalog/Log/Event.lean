/-
Log events: a level, the name of the event, and the values it happened with.
-/
import CodeCatalog.Json.Value

set_option autoImplicit false

namespace CodeCatalog.Log

open Json

/-- How serious an event is. -/
inductive Level
  | debug
  | info
  | warning
  | error
  | critical
  deriving Repr, DecidableEq, Inhabited

namespace Level

/-- The rank of a level. -/
def rank : Level → Nat
  | debug => 10
  | info => 20
  | warning => 30
  | error => 40
  | critical => 50

/-- The name of a level in events. -/
def name : Level → String
  | debug => "debug"
  | info => "info"
  | warning => "warning"
  | error => "error"
  | critical => "critical"

/-- The name of a level in settings. -/
def settingName : Level → String
  | debug => "DEBUG"
  | info => "INFO"
  | warning => "WARNING"
  | error => "ERROR"
  | critical => "CRITICAL"

/-- All levels. -/
def all : List Level := [debug, info, warning, error, critical]

/-- Other names of levels, for those who log. -/
def otherNames : List (String × Level) :=
  [("warn", .warning), ("fatal", .critical), ("exception", .error), ("msg", .info)]

/-- The level with a name in events, or with another name. -/
def ofName? (s : String) : Option Level :=
  match all.find? (·.name = s) with
  | some l => some l
  | none => otherNames.lookup s

end Level

/-- Something that happened. -/
structure Event where
  level : Level
  name : String
  context : Fields := []
  deriving Repr, DecidableEq

/-- The key of the failure that an event is logged with. -/
def failureKey : String := "exc_info"

/-- The event that is logged under the name of a level. One that is logged as an exception tells so,
unless its context does already. -/
def Event.named? (levelName name : String) (context : Fields) : Option Event := do
  let level ← Level.ofName? levelName
  let tells := levelName = "exception" && (context.get? failureKey).isNone
  let context := if tells then context ++ [(failureKey, .bool true)] else context
  return { level, name, context }

/-- The event of a message alone that is logged under the name of a level. One that is logged as an
exception, where nothing failed, tells of a failure without a kind, a value and a place. -/
def Event.ofMessage? (levelName message : String) : Option Event := do
  let level ← Level.ofName? levelName
  let context : Fields := if levelName = "exception" then
      [("event", .text message), (failureKey, .list [.null, .null, .null])]
    else []
  return { level, name := message, context }

end CodeCatalog.Log
