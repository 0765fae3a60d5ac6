/-
Logging in the course of a program.

Logging can be set up any number of times. What was put up before is taken down; then the level is
set, and the sinks of the settings are put up one after the other. A file that cannot be created
ends this, and leaves the new level and the sinks before it. Between one setting up and the next,
events are logged, each for the request that is served at that time.
-/
import CodeCatalog.Log.Sink

set_option autoImplicit false

namespace CodeCatalog.Log

variable {α : Type}

/-- An event that is logged: by whom, when, and for which request. -/
structure Call where
  time : String
  request : Option String := none
  source : Source := .catalog
  event : Event
  deriving Repr, DecidableEq

namespace Logger

/-- The logger with more sinks, put up in order until the file of one cannot be created. -/
def addSinks (folder : Place) : List Sink → Logger → Tree α → Logger × Tree α × Option FileFault
  | [], l, tree => (l, tree, none)
  | s :: rest, l, tree =>
    let added := { l with sinks := l.sinks ++ [s] }
    match s.destination with
    | .file path => match createFile tree folder path with
      | .ok tree => addSinks folder rest added tree
      | .error f => (l, tree, some f)
    | _ => addSinks folder rest added tree

/-- The logger for some settings, in place of what it was before. -/
def replace (folder : Place) (l : Logger) (s : LogSettings) (tree : Tree α) :
    Logger × Tree α × Option FileFault :=
  addSinks folder (s.outputs.map (Sink.ofOutput s.level))
    { l with level := s.level, sinks := [], isSetUp := true } tree

/-- The lines that a call is written as. -/
def writeCall (l : Logger) (c : Call) : Except Fault (List Written) :=
  { l with request := c.request }.write c.time c.source c.event

end Logger

/-- Logging at some time: the logger, and what has been written. -/
structure Session (α : Type) where
  logger : Logger := {}
  output : Output α

/-- What is done with logging. -/
inductive Deed
  | setUp (s : LogSettings)
  | log (c : Call)
  deriving Repr, DecidableEq

namespace Session

/-- Set logging up, and tell which file could not be created. -/
def setUp (folder : Place) (t : Session α) (s : LogSettings) : Session α × Option FileFault :=
  let (logger, tree, fault) := t.logger.replace folder s t.output.tree
  ({ logger, output := { t.output with tree } }, fault)

/-- Log an event, and tell why the call was refused. -/
def log (folder : Place) (t : Session α) (c : Call) : Session α × Option Fault :=
  match t.logger.writeCall c with
  | .ok lines => ({ t with output := t.output.addAll folder lines }, none)
  | .error f => (t, some f)

/-- One step; the program goes on after a fault. -/
def step (folder : Place) (t : Session α) : Deed → Session α
  | .setUp s => (t.setUp folder s).1
  | .log c => (t.log folder c).1

/-- One deed after the other. -/
def run (folder : Place) (t : Session α) (deeds : List Deed) : Session α :=
  deeds.foldl (step folder) t

end Session

end CodeCatalog.Log
