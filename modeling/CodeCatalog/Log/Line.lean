/-
The lines that log events are written as.

An event becomes a record first: what it happened with, then its name, its level, the time, and the
request that it belongs to, if there is one. A key that is there already keeps its place. The record
is written as JSON, or as a line for readers, or, where no sink is set up, as the text of a record.

A line for readers is followed by where the program was and by what failed there, if the record
tells; they are texts of lines of their own.
-/
import CodeCatalog.Failure
import CodeCatalog.Log.Event
import CodeCatalog.Settings.Model

set_option autoImplicit false

namespace CodeCatalog.Log

open Json

/-- The record of an event. -/
def record (time : String) (request : Option String) (e : Event) : Fields :=
  let fields := ((e.context.put "event" (.text e.name)).put "level" (.text e.level.name)).put
    "timestamp" (.text time)
  match request with
  | some id => fields.put "request_id" (.text id)
  | none => fields

/-- A record as JSON. -/
def jsonLine (fields : Fields) : String :=
  render (.object fields)

/-! ## Lines for readers -/

/-- Whether a text needs quotes between other values. -/
def needsQuotes (s : String) : Bool :=
  s.toList.any [' ', '\t', '=', '\r', '\n', '"', '\''].contains

/-- A value of a line. -/
def shown : Value → String
  | .text s => if needsQuotes s then Text.quoted s else s
  | v => describeInner v

/-- Text filled up with spaces to a width. -/
def padRight (width : Nat) (s : String) : String :=
  s ++ String.ofList (List.replicate (width - s.length) ' ')

/-- How wide the columns of a line are. -/
structure Columns where
  level : Nat := 0
  name : Nat := 0

/-- The columns with a place of their own: the time, the level, the event, and who logged it. -/
def ownColumns (c : Columns) : List (String × (String → String)) := [
  ("timestamp", id),
  ("level", fun s => "[" ++ padRight c.level s ++ "]"),
  ("event", padRight c.name),
  ("logger", fun s => "[" ++ s ++ "]"),
  ("logger_name", fun s => "[" ++ s ++ "]")]

/-- A text without the spaces at its end. -/
def dropEndSpaces (s : String) : String :=
  String.ofList (s.toList.reverse.dropWhile (· = ' ')).reverse

/-- The keys of what follows a line: where the program was, what failed there, and whether anything
did. -/
def keysBelow : List String := ["stack", "exception", failureKey]

/-- The rule between where the program was and what failed there. -/
def ruleBelow : String :=
  "\n\n" ++ String.ofList (List.replicate 79 '=') ++ "\n"

/-- A text on lines of its own. -/
def below : Value → Except Fault String
  | .null => .ok ""
  | .text s => .ok ("\n" ++ s)
  | v => .error (.notAppended v)

/-- What follows a line. -/
def textBelow (fields : Fields) : Except Fault String := do
  let stack := (fields.get? "stack").getD .null
  let failure := (fields.get? "exception").getD .null
  let hasFailed := failure ≠ .null || !((fields.get? failureKey).getD .null).isNothing
  let rule := if stack ≠ .null && hasFailed then ruleBelow else ""
  return (← below stack) ++ rule ++ (← below failure)

/-- A record as a line for readers: the columns of their own, then the other values by their names.
-/
def readerLine (c : Columns) (fields : Fields) : Except Fault String := do
  let columns := ownColumns c
  let first := columns.filterMap fun (key, show_) => (fields.get? key).map (show_ ∘ describe)
  let others := fields.filter fun (key, _) => !((columns.map (·.1) ++ keysBelow).contains key)
  let rest := (others.mergeSort fun a b => a.1 ≤ b.1).map fun (key, v) => key ++ "=" ++ shown v
  return dropEndSpaces (" ".intercalate ((first ++ rest).filter (· ≠ ""))) ++ (← textBelow fields)

/-- The keys under which a sink keeps notes of its own; it drops what an event has there. -/
def noteKeys : List String := ["_record", "_from_structlog"]

/-- A record in a format. -/
def formatted (format : LogFormat) (fields : Fields) : Except Fault String :=
  let fields := fields.filter fun (key, _) => !(noteKeys.contains key)
  match format with
  | .json => .ok (jsonLine fields)
  | .console => readerLine {} fields

end CodeCatalog.Log
