/-
A tree of folders and files.

The tree is a list of places with what stands there. A place is the list of its parts from the root,
and the root itself is always a folder. Beside folders and plain files a tree may hold artifacts:
files of which it is also known what they stand for. An artifact reads like any other file, and what
is written over it, or behind it, makes it a plain file again.
-/
import CodeCatalog.Storage.Path

set_option autoImplicit false

namespace CodeCatalog

/-- A place in a tree: the parts from the root. -/
abbrev Place := List String

/-- What stands at a place. -/
inductive Entry (α : Type)
  | folder
  | file (bytes : ByteArray)
  /-- A file that stands for a value. -/
  | artifact (value : α) (bytes : ByteArray)
  deriving Inhabited

/-- Places with what stands there. -/
structure Tree (α : Type) where
  entries : List (Place × Entry α) := []
  deriving Inhabited

namespace Tree

variable {α : Type}

/-- What stands at a place. -/
def get? (t : Tree α) (place : Place) : Option (Entry α) :=
  if place = [] then some .folder else (t.entries.find? (·.1 = place)).map (·.2)

/-- The tree with an entry at a place, instead of the one that stood there. -/
def put (t : Tree α) (place : Place) (entry : Entry α) : Tree α :=
  ⟨t.entries.filter (·.1 ≠ place) ++ [(place, entry)]⟩

/-- The tree without a place and everything below it. -/
def remove (t : Tree α) (place : Place) : Tree α :=
  ⟨t.entries.filter fun e => !place.isPrefixOf e.1⟩

/-- Whether a folder stands at a place. -/
def isFolder (t : Tree α) (place : Place) : Bool :=
  match t.get? place with
  | some .folder => true
  | _ => false

/-- Fail unless a folder stands at a place. -/
def requireFolder (t : Tree α) (place : Place) : Except FileFault Unit :=
  match t.get? place with
  | some .folder => .ok ()
  | some _ => .error .notFolder
  | none => .error .missing

/-- The most bytes of a name. -/
def maxNameBytes : Nat := 255

/-- The place one part further: a name in a folder, or with a double dot the folder above. -/
def step (start : Place) (part : String) : Except FileFault Place :=
  if part = ".." then .ok start.dropLast
  else if part.utf8ByteSize > maxNameBytes then .error .longName
  else .ok (start ++ [part])

/-- The place that parts lead to from a folder. Every part but the last must be a folder. -/
def walk (t : Tree α) (start : Place) : List String → Except FileFault Place
  | [] => .ok start
  | part :: rest => do
    t.requireFolder start
    t.walk (← step start part) rest

/-- The place of a path, seen from a working folder. -/
def locate (t : Tree α) (folder : Place) (p : Path) : Except FileFault Place :=
  t.walk (if p.isAbsolute then [] else folder) p.parts

/-- What stands at a path, if something does. -/
def at? (t : Tree α) (folder : Place) (p : Path) : Option (Entry α) :=
  match t.locate folder p with
  | .ok place => t.get? place
  | .error _ => none

/-- Create the folders that parts lead through. -/
def makeFolders (t : Tree α) (start : Place) : List String → Except FileFault (Tree α × Place)
  | [] => .ok (t, start)
  | part :: rest =>
    match step start part with
    | .error f => .error f
    | .ok place =>
      match t.get? place with
      | some .folder => t.makeFolders place rest
      | none => (t.put place .folder).makeFolders place rest
      | some _ => .error (if rest.isEmpty then .exists else .notFolder)

/-- Create a folder and the folders above it, and tell its place. -/
def makeFolder (t : Tree α) (folder : Place) (p : Path) : Except FileFault (Tree α × Place) :=
  t.makeFolders (if p.isAbsolute then [] else folder) p.parts

/-- The bytes of a file. -/
def bytesAt (t : Tree α) (folder : Place) (p : Path) : Except FileFault ByteArray := do
  match t.get? (← t.locate folder p) with
  | some (.file bytes) => .ok bytes
  | some (.artifact _ bytes) => .ok bytes
  | some .folder => .error .isFolder
  | none => .error .missing

/-- Write a file whose folder is there. -/
def putFile (t : Tree α) (folder : Place) (p : Path) (bytes : ByteArray) :
    Except FileFault (Tree α) := do
  let place ← t.locate folder p
  match t.get? place with
  | some .folder => .error .isFolder
  | _ => .ok (t.put place (.file bytes))

/-- Write a file after creating its folder. -/
def putFileAt (t : Tree α) (folder : Place) (p : Path) (bytes : ByteArray) :
    Except FileFault (Tree α) := do
  let (t, _) ← t.makeFolder folder p.parent
  t.putFile folder p bytes

end Tree

end CodeCatalog
