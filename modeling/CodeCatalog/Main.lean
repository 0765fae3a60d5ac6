/-
The program: an invocation of the command line on the files of the machine.

The files that the invocation may look at are read first, the invocation is carried out on them, and
what it changed is written back.
-/
import CodeCatalog.CommandLine.Reach
import CodeCatalog.Log.Clock
import Std.Time.DateTime.Timestamp

set_option autoImplicit false

namespace CodeCatalog

open Search CommandLine

/-! ## Files

An index keeps its documents in a file beside its state file. A state file stands for the collection
of that file as long as it is the text that an index writes of itself; with anything else in it, it
is a file like any other. -/

/-- The file beside a state file that keeps the documents. -/
def documentsFile : String := "documents.json"

/-- The collection whose documents a file of the machine writes, if it writes any. -/
def readDocuments (place : Place) : IO (Option Collection) := do
  let path := (← IO.currentDir) / ("/" ++ "/".intercalate place)
  if ← path.pathExists then
    return (String.fromUTF8? (← IO.FS.readBinFile path)).bind Collection.ofText?
  else
    return none

/-- The entry of the machine at a place, if there is one. -/
def readEntry (place : Place) : IO (Option (Entry Artifact)) := do
  let path := (← IO.currentDir) / ("/" ++ "/".intercalate place)
  if ← path.isDir then
    return some .folder
  else if ← path.pathExists then
    let bytes ← IO.FS.readBinFile path
    if place.getLast? = some Desk.stateFile && bytes.data = stateText.toUTF8.data then
      if let some c ← readDocuments (place.dropLast ++ [documentsFile]) then
        return some (Artifact.collection c).entry
    return some (.file bytes)
  else
    return none

/-- The bytes of a file. -/
def bytesOf? : Entry Artifact → Option ByteArray
  | .file bytes => some bytes
  | .artifact _ bytes => some bytes
  | .folder => none

/-- The text of the documents that a state file stands for. -/
def documentsOf? : Entry Artifact → Option String
  | .artifact (.collection c) _ => some c.toText
  | _ => none

/-- Whether two entries are written alike. -/
def writtenAlike (a b : Entry Artifact) : Bool :=
  (bytesOf? a).map (·.data) = (bytesOf? b).map (·.data) && documentsOf? a = documentsOf? b

/-- The tree with the entries on the way to a path. -/
def readPath (tree : Tree Artifact) (folder path : Path) : IO (Tree Artifact) := do
  let place := (Path.resolve folder path).parts
  let mut tree := tree
  for n in [1 : place.length + 1] do
    let start := place.take n
    if (tree.get? start).isNone then
      if let some entry ← readEntry start then
        tree := tree.put start entry
  return tree

/-- The tree with the entries on the way to paths. -/
def readPaths (tree : Tree Artifact) (folder : Path) (paths : List Path) : IO (Tree Artifact) :=
  paths.foldlM (readPath · folder) tree

/-- Write an entry to the machine at a place. -/
def writeEntry (place : Place) (entry : Entry Artifact) : IO Unit := do
  let path := (← IO.currentDir) / ("/" ++ "/".intercalate place)
  match bytesOf? entry with
  | none => IO.FS.createDirAll path
  | some bytes =>
    IO.FS.writeBinFile path bytes
    if let some documents := documentsOf? entry then
      IO.FS.writeFile (path.withFileName documentsFile) documents

/-- Write back what has changed in a tree. -/
def writeBack (before after : Tree Artifact) : IO Unit := do
  for (place, entry) in after.entries do
    if !(before.get? place).any (writtenAlike entry) then
      writeEntry place entry

/-! ## Surroundings -/

/-- The settings file of the user below a home folder. -/
def userFile (home : String) : Path :=
  ((Path.ofText home).join (.ofText userFolder)).child settingsFile

/-- The variables that the settings may come from. -/
def readVariables : IO (List (String × String)) :=
  Settings.variableNames.filterMapM fun name => do
    return (← IO.getEnv name).map fun value => (name, value)

/-- Hexadecimal digits that nobody can guess. -/
def randomDigits (n : Nat) : IO String := do
  return String.ofList (Text.hexDigits n (← IO.rand 0 (Nat.pow 16 n - 1)))

/-- What an invocation finds around it. -/
def readSetting : IO Setting := do
  let home := (← IO.getEnv "HOME").getD "/"
  let seconds := (← Std.Time.Timestamp.now).toSecondsSinceUnixEpoch.val
  let lead := (← randomDigits 8) ++ "-" ++ (← randomDigits 4) ++ "-4" ++ (← randomDigits 3) ++
    "-8" ++ (← randomDigits 3) ++ "-"
  return {
    surroundings := {
      homes := { own := home }
      userFile := userFile home
      vars := ← readVariables }
    time := Log.timeText seconds.toNat
    request := ← randomDigits 12
    freshId := fun line => lead ++ String.ofList (Text.hexDigits 12 line) }

/-! ## Invocations -/

/-- Carry an invocation out on the files of the machine. -/
def invokeOnMachine (line : List String) : IO UInt32 := do
  let setting ← readSetting
  let folder := Path.ofText (← IO.currentDir).toString
  let tree ← readPaths {} folder (earlyPaths setting folder line)
  let tree ← readPaths tree folder (latePaths setting tree folder line)
  let (ending, t) := CommandLine.run setting line { shelf := { files := tree, folder } }
  writeBack tree t.shelf.files
  for text in t.stdout do
    IO.println text
  for text in t.stderr do
    IO.eprintln text
  if let some (.failed e) := ending then
    IO.eprintln e.text
  return ((ending.map Ending.code).getD 0).toUInt32

end CodeCatalog

/-- The program. -/
def main (line : List String) : IO UInt32 :=
  CodeCatalog.invokeOnMachine line
