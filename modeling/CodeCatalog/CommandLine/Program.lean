/-
The command line of the catalogue.

    codeindexer [-v] [--root FOLDER] build ELEMENTS
    codeindexer [-v] [--root FOLDER] show ELEMENTS ELEMENT_ID
    codeindexer [-v] [--root FOLDER] stats
    codeindexer [-v] [--root FOLDER] search name|fullname|kind|parent|advanced ...

Every invocation reads its options, loads the settings of the root, sets logging up, and carries one
command out. Results are JSON objects, one to a line of the output stream.
-/
import CodeCatalog.Catalog
import CodeCatalog.CommandLine.Grammar
import CodeCatalog.Log.Sink
import CodeCatalog.Settings.Load
import CodeCatalog.Stream.Reading

set_option autoImplicit false

namespace CodeCatalog.CommandLine

open Json Log Search

/-! ## Commands -/

/-- What can be asked of the catalogue. -/
inductive Command
  | build
  | show
  | stats
  | byName
  | byFullName
  | byKind
  | byParent
  | advanced
  deriving Repr, DecidableEq

/-- The commands, by name; the searches stand under a command of their own. -/
def commands : List (String × Option Command) := [
  ("build", some .build), ("search", none), ("show", some .show), ("stats", some .stats)]

/-- The searches, by name. -/
def searches : List (String × Command) := [
  ("name", .byName), ("fullname", .byFullName), ("kind", .byKind), ("parent", .byParent),
  ("advanced", .advanced)]

/-- The names of the kinds. -/
def kindForm : Form := .oneOf (Kind.all.map Kind.name)

/-- The option for the most results. -/
def limitOption : OptionForm := { names := ["-n", "--limit"], form := some .whole }

/-- The stream of elements that a command reads. -/
def elementsArgument : ArgumentForm := { name := "ELEMENTS", form := .existingFile }

/-- The options before every command. -/
def mainGrammar : Grammar where
  options := [{ names := ["-v", "--verbose"], form := none },
    { names := ["--root"], form := some .existingFolder }, versionOption]
  hasCommands := true

/-- The options before a search. -/
def searchGrammar : Grammar where
  hasCommands := true

/-- The options and arguments of a command. -/
def Command.grammar : Command → Grammar
  | build => { arguments := [elementsArgument] }
  | .show => { arguments := [elementsArgument, { name := "ELEMENT_ID" }] }
  | stats => {}
  | byName => { options := [limitOption], arguments := [{ name := "PATTERN" }] }
  | byFullName => { arguments := [{ name := "FULL_NAME" }] }
  | byKind => { options := [limitOption], arguments := [{ name := "KIND", form := kindForm }] }
  | byParent => { options := [limitOption], arguments := [{ name := "PARENT_ID" }] }
  | advanced =>
    { options := [{ names := ["--name"] }, { names := ["--kind"], form := some kindForm },
        { names := ["--access"] }, { names := ["--parent"] }, { names := ["--returns"] },
        limitOption] }

/-! ## Runs -/

/-- How an invocation ends before its command is done. -/
inductive Ending
  /-- Help is shown, because it was asked for or because nothing else was. -/
  | help (asked : Bool)
  | version
  | usage (e : UsageError)
  /-- The catalogue refused. -/
  | refused (e : CatalogError)
  /-- There is no such element. -/
  | notFound (message : String)
  /-- A fault that nothing catches. -/
  | failed (e : Settings.LoadError)
  deriving Repr

/-- The exit code of an invocation. -/
def Ending.code : Ending → Nat
  | help asked => if asked then 0 else 2
  | version => 0
  | usage _ => 2
  | refused _ => 1
  | notFound _ => 1
  | failed _ => 1

/-- What the user is told of an error. -/
def Ending.message? : Ending → Option String
  | usage e => some e.message
  | refused e => some e.text
  | notFound m => some m
  | _ => none

/-- What an invocation finds around it. -/
structure Setting where
  surroundings : Settings.Surroundings
  /-- The time that log lines tell. -/
  time : String
  /-- The request that log lines belong to. -/
  request : String
  /-- An id for the element of a line that has none of its own. -/
  freshId : Nat → String

/-- What an invocation changes: what the indexes share, and the lines of the two streams. -/
structure Terminal where
  shelf : Shelf := {}
  stdout : List String := []
  stderr : List String := []
  deriving Inhabited

/-- An invocation. -/
abbrev Run (α : Type) := ExceptT Ending (StateM Terminal) α

namespace Run

variable {α : Type}

/-- The files. -/
def files : Run (Tree Artifact) := do
  return (← get).shelf.files

/-- The working folder. -/
def folder : Run Path := do
  return (← get).shelf.folder

/-- Print a record on a line of its own. -/
def print (record : Value) : Run Unit :=
  modify fun t => { t with stdout := t.stdout ++ [render record] }

/-- Stop for a reason of the command line. -/
def stop : Stop → Run α
  | .usage e => throw (.usage e)
  | .help => throw (.help true)
  | .version => throw .version

/-- Fail for the reason of an action. -/
def failWith : Failure → Run α
  | .catalog e => throw (.refused e)
  | .fault f => throw (.failed (.failure (.fault f)))

/-- Read a command line. -/
def read (g : Grammar) (line : List String) : Run (Grammar.Values × List String) := do
  if g.hasCommands && line.isEmpty then throw (.help false)
  match g.read (← files) (← folder).parts line with
  | .ok r => return r
  | .error s => stop s

/-- Write log events. -/
def log (time : String) (l : Logger) (events : List Event) : Run Unit :=
  modify fun t =>
    let start : Output Artifact := { stderr := t.stderr, stdout := t.stdout, tree := t.shelf.files }
    let o := start.addAll t.shelf.folder.parts (l.writeAll time .catalog events)
    { t with shelf := { t.shelf with files := o.tree }, stdout := o.stdout, stderr := o.stderr }

/-- The command that a name stands for. A name that begins like an option is read as one first. -/
def lookUp {β : Type} (g : Grammar) (table : List (String × β)) :
    List String → Run (β × List String)
  | [] => throw (.usage .missingCommand)
  | name :: rest =>
    match table.lookup name with
    | some b => return (b, rest)
    | none => do
      if name.startsWith "-" then discard (read g (name :: rest))
      throw (.usage (.unknownCommand name (Text.closest name (table.map (·.1)))))

end Run

/-! ## Setting up -/

/-- What every command works with. -/
structure Workplace where
  setting : Setting
  root : Path
  settings : Settings
  logger : Logger

/-- Load the settings of the root. Only what is wrong with the settings themselves is reported. -/
def loadSettings (s : Setting) (root : Path) : Run Settings := do
  match Settings.load (← Run.files) (← Run.folder).parts s.surroundings root [] with
  | .ok settings => return settings
  | .error (.failure f) => Run.failWith f
  | .error e => throw (.failed e)

/-- Set logging up: the files of its sinks are created. -/
def setUpLogging (s : Setting) (settings : LogSettings) : Run Logger := do
  let (logger, files) := Logger.setUp (← Run.folder).parts (some s.request) settings (← Run.files)
  modify fun t => { t with shelf := { t.shelf with files } }
  match logger with
  | .error f => Run.failWith (.fault (.file f))
  | .ok logger => return logger

/-- What a command works with, from the options before it. -/
def setUp (s : Setting) (values : Grammar.Values) : Run Workplace := do
  let root := Path.resolve (← Run.folder) ((values.path? "--root").getD (.ofText "."))
  let settings ← loadSettings s root
  let logging := if values.has "--verbose" then { settings.logging with level := .debug }
    else settings.logging
  let logger ← setUpLogging s logging
  return { setting := s, root, settings, logger }

/-! ## Carrying out -/

variable {α : Type}

/-- Write log events of a command. -/
def Workplace.log (w : Workplace) (events : List Event) : Run Unit :=
  Run.log w.setting.time w.logger events

/-- Where the index is. -/
def Workplace.indexFolder (w : Workplace) : Run Path := do
  match Settings.indexFolder w.setting.surroundings.homes w.root w.settings with
  | .ok path => return path
  | .error f => Run.failWith f

/-- Do something with the catalogue of the root, whose index is closed again in any case. -/
def Workplace.withCatalog (w : Workplace) (act : Act Catalog α) : Run α := do
  let path ← w.indexFolder
  let shelf := (← get).shelf
  let c : Catalog := {
    limits := w.settings.limits
    desk := { shelf, index := Catalog.indexOf shelf.folder path w.settings.index } }
  let whole : Act Catalog α := do
    Catalog.onIndex Desk.openIndex
    let r ← Act.attempt act
    Catalog.onIndex Desk.closeIndex
    match r with
    | .ok a => return a
    | .error f => throw f
  let (r, c) := whole.outcome c
  modify fun t => { t with shelf := c.desk.shelf }
  w.log c.desk.log
  match r with
  | .ok a => return a
  | .error f => Run.failWith f

/-- The elements of a stream, and how many lines were skipped. -/
def Workplace.readStream (w : Workplace) (path : Path) : Run (List Element × Nat) := do
  match Stream.readAt (← Run.files) (← Run.folder).parts path w.setting.freshId with
  | .error f => Run.failWith (.fault (.file f))
  | .ok r =>
    w.log r.events
    match r.fault with
    | some f => Run.failWith (.fault f)
    | none => return (r.elements, r.skipped)

/-- Rebuild the index from a stream. -/
def Workplace.build (w : Workplace) (stream : Path) : Run Unit := do
  let (elements, skipped) ← w.readStream stream
  let count ← w.withCatalog (Catalog.build (elements.map fun e => .ok (some e)))
  Run.print (.object [("indexed", .int count), ("skipped", .int skipped),
    ("index_path", .text (← w.indexFolder).text)])

/-- Print the last element of a stream with an id. -/
def Workplace.showElement (w : Workplace) (stream : Path) (id : String) : Run Unit := do
  let (elements, _) ← w.readStream stream
  discard w.indexFolder
  let (store, _) := Store.empty.addAll (elements.map fun e => .ok (some e))
  match store.getById id with
  | some e => Run.print e.toRecord
  | none =>
    throw (.notFound ("No element with id '" ++ id ++ "' in " ++ stream.text))

/-- Print where the index is and how many documents it has. -/
def Workplace.stats (w : Workplace) : Run Unit := do
  let count ← w.withCatalog (Catalog.onIndex Desk.docCount)
  Run.print (.object [("index_path", .text (← w.indexFolder).text), ("documents", .int count)])

/-- Print what a search finds. -/
def Workplace.search (w : Workplace) (a : Catalog.Ask) : Run Unit := do
  for s in ← w.withCatalog (Catalog.search a) do
    Run.print s.toRecord

/-- Print the element with a full name. -/
def Workplace.searchFullName (w : Workplace) (fullName : String) : Run Unit := do
  match ← w.withCatalog (Catalog.search (.byFullName (.text fullName))) with
  | s :: _ => Run.print s.toRecord
  | [] => throw (.notFound ("No element named '" ++ fullName ++ "'"))

/-- The query that options write. -/
def queryOf (vs : Grammar.Values) : Query where
  namePattern := .optionalText (vs.text? "--name")
  kind := .optionalText (vs.text? "--kind")
  accessModifier := .optionalText (vs.text? "--access")
  parentId := .optionalText (vs.text? "--parent")
  returnType := .optionalText (vs.text? "--returns")

/-- The text of an argument. -/
def textOf (vs : Grammar.Values) (name : String) : Value :=
  .text ((vs.text? name).getD "")

/-- The limit that an option writes, null if it is not there. -/
def limitOf (vs : Grammar.Values) : Value :=
  match vs.whole? "--limit" with
  | some n => .int n
  | none => .null

/-- Carry a command out. -/
def Workplace.carryOut (w : Workplace) (vs : Grammar.Values) : Command → Run Unit
  | .build => w.build ((vs.path? "ELEMENTS").getD default)
  | .show => w.showElement ((vs.path? "ELEMENTS").getD default) ((vs.text? "ELEMENT_ID").getD "")
  | .stats => w.stats
  | .byName => w.search (.byName (textOf vs "PATTERN") (limitOf vs))
  | .byFullName => w.searchFullName ((vs.text? "FULL_NAME").getD "")
  | .byKind => w.search (.byKind (textOf vs "KIND") (limitOf vs))
  | .byParent => w.search (.byParent (textOf vs "PARENT_ID") (limitOf vs))
  | .advanced => w.search (.advanced (queryOf vs) (limitOf vs))

/-- The command that words name, with the words behind it. -/
def findCommand (c : Option Command) (line : List String) : Run (Command × List String) := do
  match c with
  | some c => return (c, line)
  | none =>
    let (_, words) ← Run.read searchGrammar line
    Run.lookUp searchGrammar searches words

/-- An invocation with its words. -/
def invoke (s : Setting) (line : List String) : Run Unit := do
  let (values, words) ← Run.read mainGrammar line
  let (c, words) ← Run.lookUp mainGrammar commands words
  let w ← setUp s values
  let (c, words) ← findCommand c words
  let (values, _) ← Run.read c.grammar words
  w.carryOut values c

/-- The version of the program. -/
def versionText : String := "codeindexer, version 0.1.0"

/-- How the program is used. -/
def usageText : List String := [
  "Usage: codeindexer [-v] [--root FOLDER] COMMAND [ARGS]...",
  "Commands: build ELEMENTS, show ELEMENTS ELEMENT_ID, stats, " ++
    "search name|fullname|kind|parent|advanced"]

/-- What an ending adds to the streams. -/
def Ending.addTo (e : Ending) (t : Terminal) : Terminal :=
  match e with
  | help true => { t with stdout := t.stdout ++ usageText }
  | help false => { t with stderr := t.stderr ++ usageText }
  | version => { t with stdout := t.stdout ++ [versionText] }
  | e => match e.message? with
    | some m => { t with stderr := t.stderr ++ ["Error: " ++ m] }
    | none => t

/-- Carry an invocation out: how it ends, unless its command is done, and what it leaves. -/
def run (s : Setting) (line : List String) (t : Terminal) : Option Ending × Terminal :=
  match (invoke s line).run.run t with
  | (.ok (), t) => (none, t)
  | (.error e, t) => (some e, e.addTo t)

end CodeCatalog.CommandLine
