/-
Loading the settings for a root folder.

There are four sources. A value in an earlier one replaces that in a later one, and tables are
merged key by key: what the caller gives, the environment variables, the settings file of the root,
the settings file of the user. What none of them has keeps its default.

The settings are checked, written out, and checked again, so that what is returned is exactly what
the settings mean as data.
-/
import CodeCatalog.Settings.Variables
import CodeCatalog.Storage.Tree
import CodeCatalog.Stream.Reading
import CodeCatalog.Yaml.Data

set_option autoImplicit false

namespace CodeCatalog.Settings

variable {α : Type}

/-- Why the settings cannot be loaded. -/
inductive LoadError
  | failure (f : Failure)
  /-- A section cannot be read from the environment variables. -/
  | badVariable (name : String)
  /-- Settings that passed the check do not pass it again. -/
  | problems (problems : List Problem)
  deriving Repr

/-- The message about a section that cannot be read from the environment variables. -/
def badVariableText (name : String) : String :=
  "error parsing value for field \"" ++ name ++ "\" from source \"EnvSettingsSource\""

/-- The error in words. -/
def LoadError.text : LoadError → String
  | failure f => f.text
  | badVariable name => badVariableText name
  | problems ps => "; ".intercalate (ps.map fun p => p.wayText ++ ": " ++ p.cause.message)

/-- What the settings are loaded from, beside the root. -/
structure Surroundings where
  homes : Path.Homes
  /-- The settings file of the user. -/
  userFile : Path
  vars : List (String × String) := []

/-! ## Settings files -/

/-- The settings file of a root. -/
def fileOf (root : Path) : Path :=
  (root.child catalogFolder).child settingsFile

/-- Fail because a settings file cannot be understood. -/
def parseError (path : Path) (reason : String) : Except Failure α :=
  .error (.catalog (.configParse path.text reason))

/-- The table that the text of a settings file writes. A text that is as good as empty gives an
empty one; one that is cut off goes on with bytes that are no text. -/
def tableOf (path : Path) (text : List Char) (isCut : Bool) : Except Failure Entries :=
  match Yaml.read text isCut with
  | .error (.malformed reason) => parseError path reason.message
  | .error (.fault f) => .error (.fault f)
  | .error .unread => .error (.fault .badEncoding)
  | .ok d => match d.bare with
    | .table entries => .ok entries
    | _ => if d.isNothing then .ok [] else parseError path "top-level value must be a mapping"

/-- The table in a settings file; a file that is not there gives an empty one. -/
def entriesAt (tree : Tree α) (folder : Place) (path : Path) : Except Failure Entries :=
  match tree.bytesAt folder path with
  | .error .missing | .error .notFolder => .ok []
  | .error f => .error (.fault (.file f))
  | .ok bytes => match Stream.decode? bytes with
    | some text => tableOf path text false
    | none => tableOf path (Stream.settled (Stream.validStart bytes)) true

/-! ## Sources -/

/-- Whether a key is a text that differs from a name in case alone. -/
def isNamed (name : String) : Scalar → Bool
  | .text s => Text.lower s = name
  | _ => false

/-- The entries of the three sections, in the order of the sections, and then the others. The names
of the sections may be in any case; the first of several counts. -/
def sectionsFirst (entries : Entries) : Entries :=
  let known := sectionNames.filterMap fun name =>
    (List.find? (isNamed name ·.1) entries).map fun (_, d) => (.text name, d)
  let others := entries.filter fun (key, _) => !sectionNames.any (isNamed · key)
  known ++ others

/-- The sources laid over each other. The settings file of the root lies over that of the user, the
variables over both, and what the caller gives over all. -/
def combine (given vars rootFile userFile : Entries) : Entries :=
  let files := if userFile.isEmpty then rootFile else Datum.mergeOver userFile rootFile
  Datum.mergeOver files (Datum.mergeOver vars given)

/-- Whether a key is a text. -/
def isTextKey : Scalar → Bool
  | .text _ => true
  | _ => false

/-- The failure that reports a problem. -/
def problemFailure (p : Problem) : Failure :=
  if p.found.canDescribe then
    .catalog (.configValue p.wayText p.found.describe p.cause.message)
  else .fault .numberTooLong

/-- The settings that combined sources give. Of several problems the first one is reported. -/
def ofSources (homes : Path.Homes) (entries : Entries) : Except LoadError Settings := do
  if !entries.all (isTextKey ·.1) then throw (.failure (.fault .keyNotText))
  match checkExactly homes entries with
  | .error fault => throw (.failure (.fault fault))
  | .ok (.error []) => throw (.problems [])
  | .ok (.error (p :: _)) => throw (.failure (problemFailure p))
  | .ok (.ok settings) => match checkAll homes settings.toDatum with
    | .error fault => throw (.failure (.fault fault))
    | .ok (.error ps) => throw (.problems ps)
    | .ok (.ok settings) => return settings

/-- The settings for a root; paths are seen from a working folder. -/
def load (tree : Tree α) (folder : Place) (s : Surroundings) (root : Path) (given : Entries) :
    Except LoadError Settings := do
  let rootFile ← (entriesAt tree folder (fileOf root)).mapError .failure
  let userFile ← (entriesAt tree folder s.userFile).mapError .failure
  if !userFile.isEmpty && Datum.meetsAgainIn userFile rootFile then
    throw (.failure (.fault .tooDeep))
  let vars ← (fromVariables s.vars).mapError fun
    | (name, .unreadable) => .badVariable name
    | (_, .fault f) => .failure (.fault f)
  ofSources s.homes (combine (sectionsFirst given) vars rootFile userFile)

/-- Where the index of a root is kept: where the settings say, or in the catalogue's own folder. -/
def indexFolder (homes : Path.Homes) (root : Path) (s : Settings) : Except Failure Path :=
  match s.index.indexPath with
  | none | some "" => .ok ((root.child catalogFolder).child defaultIndexFolder)
  | some text => ((Path.ofText text).expandHome homes).mapError .fault

end CodeCatalog.Settings
