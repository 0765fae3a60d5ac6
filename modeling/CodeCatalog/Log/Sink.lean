/-
Where log events go.

A logger has a level and sinks with levels of their own. An event that reaches the level of the
logger is written to each sink whose level it reaches too. A logger without sinks writes what is at
least a warning to the error stream. A logger that was never set up writes the catalogue's events to
the output stream.

The context of an event must not use the names under which the call takes what it is made with. An
event that a sink cannot write is lost there; a logger that was never set up refuses it.
-/
import CodeCatalog.Log.Line
import CodeCatalog.Storage.Tree

set_option autoImplicit false

namespace CodeCatalog.Log

open Json

/-- A place that lines are written to. -/
inductive Destination
  | stderr
  | stdout
  | file (path : Path)
  deriving Repr, DecidableEq

/-- The destination with a name in the settings. -/
def Destination.ofText (s : String) : Destination :=
  if s = "stderr" then stderr else if s = "stdout" then stdout else file (.ofText s)

/-- A destination with a format, and the least level that it takes. -/
structure Sink where
  format : LogFormat
  destination : Destination
  level : Level
  deriving Repr, DecidableEq

/-- The sink of an output; without a level of its own it takes that of the settings. -/
def Sink.ofOutput (level : Level) (o : LogOutput) : Sink where
  format := o.format
  destination := .ofText o.destination
  level := o.level.getD level

/-- Who logs an event: the catalogue, with a context, or anything else, with a message alone. -/
inductive Source
  | catalog
  | other
  deriving Repr, DecidableEq

/-- The state of logging. -/
structure Logger where
  level : Level := .warning
  sinks : List Sink := []
  isSetUp : Bool := false
  /-- The request that events belong to. -/
  request : Option String := none
  deriving Repr, DecidableEq

/-- Whether an event is serious enough for a level. -/
def Level.admits (least : Level) (e : Event) : Bool :=
  least.rank ≤ e.level.rank

/-- A line and where it is written. -/
abbrev Written := Destination × String

namespace Logger

/-- A logger for some settings. -/
def ofSettings (s : LogSettings) (request : Option String := none) : Logger where
  level := s.level
  sinks := s.outputs.map (Sink.ofOutput s.level)
  isSetUp := true
  request := request

/-- The columns of a logger that was never set up. -/
def plainColumns : Columns := { level := 9, name := 30 }

/-- Whether the logger takes up an event; it takes up all if it was never set up. -/
def takes (l : Logger) (e : Event) : Bool :=
  !l.isSetUp || l.level.admits e

/-- A name of the call in the context of an event. -/
def clash? (l : Logger) (e : Event) : Option Fault :=
  let callee := if l.takes e then "_make_filtering_bound_logger.<locals>.make_method.<locals>.meth"
    else "_nop"
  match e.context.find? fun (key, _) => key = "self" || key = "event" with
  | some (key, _) => some (.repeatedArgument callee key)
  | none =>
    if l.takes e && (e.context.get? "method_name").isSome then
      some (.repeatedArgument "BoundLoggerBase._proxy_to_logger" "method_name")
    else none

/-- The line of a logger that was never set up. Where the program was is not for the line. -/
def plainLine (time : String) (e : Event) : Except Fault String :=
  readerLine plainColumns (record time none { e with context := e.context.erase "stack_info" })

/-- A message alone, and below it the failure that it tells of, which is none. -/
def plainMessage (e : Event) : String :=
  e.name ++ (if (e.context.get? failureKey).isSome then "\nNoneType: None" else "")

/-- What a logger without sinks writes. -/
def unsunk (l : Logger) (time : String) (source : Source) (e : Event) :
    Except Fault (List Written) := do
  match source, l.isSetUp with
  | .catalog, false => return [(.stdout, ← plainLine time e)]
  | .catalog, true =>
    return if Level.warning.admits e && l.level.admits e then
      [(.stderr, describe (.object (record time l.request e)))]
    else []
  | .other, _ =>
    return if Level.warning.admits e && l.level.admits e then [(.stderr, plainMessage e)] else []

/-- The lines that the sinks write for an event, in their order. A sink that cannot write its line
leaves it out. The report of that on the error stream is no event, and not part of this. -/
def sunk (l : Logger) (time : String) (e : Event) : List Written :=
  if l.level.admits e then
    let fields := record time l.request e
    (l.sinks.filter (·.level.admits e)).filterMap fun s =>
      (formatted s.format fields).toOption.map (s.destination, ·)
  else []

/-- The lines that an event is written as. -/
def write (l : Logger) (time : String) (source : Source) (e : Event) :
    Except Fault (List Written) := do
  if source = .catalog then
    if let some f := l.clash? e then throw f
  if l.sinks.isEmpty then l.unsunk time source e else return l.sunk time e

/-- The lines of events; one that is refused has none. -/
def writeAll (l : Logger) (time : String) (source : Source) (events : List Event) : List Written :=
  events.flatMap fun e => ((l.write time source e).toOption).getD []

end Logger

/-! ## Files -/

variable {α : Type}

/-- A file with its folders, created unless it is there. -/
def createFile (tree : Tree α) (folder : Place) (path : Path) : Except FileFault (Tree α) := do
  let (tree, _) ← tree.makeFolder folder path.parent
  match tree.at? folder path with
  | some .folder => throw .isFolder
  | some _ => return tree
  | none => tree.putFile folder path .empty

/-- The files of sinks, created in order until one fails. -/
def createFiles (folder : Place) : List Sink → Tree α → Tree α × Option FileFault
  | [], tree => (tree, none)
  | s :: rest, tree =>
    match s.destination with
    | .file path => match createFile tree folder path with
      | .ok tree => createFiles folder rest tree
      | .error f => (tree, some f)
    | _ => createFiles folder rest tree

/-- A logger for some settings, with the files of its sinks; a file that cannot be created ends the
setting up. -/
def Logger.setUp (folder : Place) (request : Option String) (s : LogSettings) (tree : Tree α) :
    Except FileFault Logger × Tree α :=
  let logger := Logger.ofSettings s request
  match createFiles folder logger.sinks tree with
  | (tree, none) => (.ok logger, tree)
  | (tree, some f) => (.error f, tree)

/-- A line at the end of a file. -/
def appendLine (tree : Tree α) (folder : Place) (path : Path) (line : String) : Tree α :=
  match tree.bytesAt folder path with
  | .error _ => tree
  | .ok bytes => match tree.putFile folder path (bytes ++ (line ++ "\n").toUTF8) with
    | .ok tree => tree
    | .error _ => tree

/-- The lines of the two streams, and a tree whose files hold the other ones. -/
structure Output (α : Type) where
  stderr : List String := []
  stdout : List String := []
  tree : Tree α

/-- Write a line. -/
def Output.add (folder : Place) (o : Output α) : Written → Output α
  | (.stderr, line) => { o with stderr := o.stderr ++ [line] }
  | (.stdout, line) => { o with stdout := o.stdout ++ [line] }
  | (.file path, line) => { o with tree := appendLine o.tree folder path line }

/-- Write lines in order. -/
def Output.addAll (folder : Place) (o : Output α) (lines : List Written) : Output α :=
  lines.foldl (Output.add folder) o

end CodeCatalog.Log
