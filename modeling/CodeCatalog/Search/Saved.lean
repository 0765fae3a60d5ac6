/-
What an index keeps in its folder.

The state file of an index stands for the collection of the last commit. As a text it begins like
every description, with the settings of the index; the segments and the fields that such a text goes
on with are not told here, since the collection tells them. The documents themselves lie elsewhere in
the folder. Between two runs of the program they are a text of their own: a document is the list of
its fields, each with its value.
-/
import CodeCatalog.Search.Collection
import CodeCatalog.Search.Description
import CodeCatalog.Storage.Tree

set_option autoImplicit false

namespace CodeCatalog.Search

open Json

/-! ## The state file -/

/-- What a state file stands for. -/
inductive Artifact
  /-- The collection of the last commit. -/
  | collection (c : Collection)
  /-- An index of another program, with other fields. -/
  | foreign
  deriving Repr, DecidableEq, Inhabited

/-- The text of a state file. -/
def stateText : String :=
  render (.object [("index_settings", .object usualSettings)]) ++ "\n"

/-- The state file that stands for something. -/
def Artifact.entry (a : Artifact) : Entry Artifact :=
  .artifact a stateText.toUTF8

/-! ## Writing documents -/

/-- A field of a document as JSON. -/
def savedField (field : DocField × Stored) : Value :=
  .list [.text field.1.label, field.2.toJson]

/-- A document as JSON. -/
def Document.toSaved (d : Document) : Value :=
  .list (d.fields.map savedField)

/-- A collection as JSON. -/
def Collection.toSaved (c : Collection) : Value :=
  .object [("documents", .list (c.live.map Document.toSaved)),
    ("removed", .list (c.removed.map Document.toSaved))]

/-- The text of the documents of a collection. -/
def Collection.toText (c : Collection) : String :=
  render c.toSaved

/-! ## Reading documents -/

/-- The stored value that JSON writes. -/
def Stored.ofSaved? : Value → Option Stored
  | .text s => some (.text s)
  | .int n => some (.whole n)
  | _ => none

/-- The field of a document that JSON writes. -/
def fieldOfSaved? : Value → Option (DocField × Stored)
  | .list [.text label, v] => do return (← DocField.ofLabel? label, ← Stored.ofSaved? v)
  | _ => none

/-- The document that JSON writes. -/
def Document.ofSaved? : Value → Option Document
  | .list fields => (fields.mapM fieldOfSaved?).map Document.mk
  | _ => none

/-- The collection that JSON writes. -/
def Collection.ofSaved? : Value → Option Collection
  | .object [("documents", .list live), ("removed", .list removed)] => do
    return { live := ← live.mapM Document.ofSaved?, removed := ← removed.mapM Document.ofSaved? }
  | _ => none

/-- The collection whose documents a text writes. -/
def Collection.ofText? (s : String) : Option Collection :=
  (Json.read s).toOption.bind Collection.ofSaved?

end CodeCatalog.Search
