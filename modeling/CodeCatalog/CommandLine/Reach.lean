/-
What an invocation may look at: the paths that its words name, the settings files, and what the
settings name in turn. An outer layer has to know no more than these to carry the invocation out.
-/
import CodeCatalog.CommandLine.Program

set_option autoImplicit false

namespace CodeCatalog.CommandLine

open Search

/-- The paths that a word may name: the word, and what follows an equals sign in it. -/
def wordPaths (word : String) : List Path :=
  let value := (word.toList.dropWhile (· ≠ '=')).drop 1
  [.ofText word, .ofText (String.ofList value)]

/-- The folders that may be the root. -/
def roots (folder : Path) (line : List String) : List Path :=
  folder :: (line.flatMap wordPaths).map fun p => folder.join p

/-- What is looked at before the settings are known. -/
def earlyPaths (s : Setting) (folder : Path) (line : List String) : List Path :=
  s.surroundings.userFile :: (roots folder line ++ (roots folder line).map Settings.fileOf)

/-- What the settings of a root name: the state of the index, and the log files. -/
def settingsPaths (homes : Path.Homes) (root : Path) (settings : CodeCatalog.Settings) :
    List Path :=
  let index := match Settings.indexFolder homes root settings with
    | .ok path => [path.child Desk.stateFile]
    | .error _ => []
  index ++ (Log.Logger.ofSettings settings.logging).sinks.filterMap fun sink =>
    match sink.destination with
    | .file path => some path
    | _ => none

/-- What is looked at once the settings are known. -/
def latePaths (s : Setting) (tree : Tree Artifact) (folder : Path) (line : List String) :
    List Path :=
  (roots folder line).flatMap fun root =>
    match Settings.load tree folder.parts s.surroundings root [] with
    | .ok settings => settingsPaths s.surroundings.homes root settings
    | .error _ => []

end CodeCatalog.CommandLine
