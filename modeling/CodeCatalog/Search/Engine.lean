/-
The engine below an open index: one writer with changes that wait for a commit, and a view of the
commits for readers.

Every call of the engine can be told to fail. A call that fails does nothing else. Once the writer
is consumed, each of its calls fails.
-/
import CodeCatalog.Search.Collection
import CodeCatalog.Search.Readers

set_option autoImplicit false

namespace CodeCatalog.Search

/-- The calls of the engine. -/
inductive Call
  | commit
  | rollback
  | addDocument
  | deleteDocuments
  | deleteAllDocuments
  | waitMergingThreads
  | reload
  | searcher
  deriving Repr, DecidableEq, Inhabited

namespace Call

/-- The name of a call. -/
def name : Call → String
  | commit => "commit"
  | rollback => "rollback"
  | addDocument => "add_document"
  | deleteDocuments => "delete_documents"
  | deleteAllDocuments => "delete_all_documents"
  | waitMergingThreads => "wait_merging_threads"
  | reload => "reload"
  | searcher => "searcher"

/-- All calls. -/
def all : List Call := [
  commit, rollback, addDocument, deleteDocuments, deleteAllDocuments, waitMergingThreads, reload,
  searcher]

/-- The call with a name. -/
def ofName? (s : String) : Option Call :=
  all.find? (·.name = s)

/-- Whether a call is one of the writer's. -/
def isWriting : Call → Bool
  | reload => false
  | searcher => false
  | _ => true

end Call

/-- For each call the outcomes of its next uses: a fault, or none where the use succeeds. Beyond the
list every use succeeds. -/
abbrev Script := Call → List (Option Fault)

/-- An engine that is open on a collection. -/
structure Engine where
  /-- The last commit. -/
  committed : Collection := {}
  /-- What readers see: the commit at the last reload. -/
  visible : Collection := {}
  /-- Changes since the last commit. -/
  pending : List Change := []
  consumed : Bool := false
  script : Script := fun _ => []
  deriving Inhabited

namespace Engine

/-- The script after one use of a call. -/
def Script.next (s : Script) (c : Call) : Script :=
  fun d => if d = c then (s c).drop 1 else s d

/-- The script in which the next uses of a call fail. -/
def Script.failing (s : Script) (c : Call) (times : Nat) (f : Fault) : Script :=
  fun d => if d = c then List.replicate times (some f) else s d

/-- Use a call: it fails as the script says, or because the writer is consumed, and otherwise
changes the engine. -/
def use (c : Call) (change : Engine → Engine) : Act Engine Unit := do
  let e ← get
  set { e with script := Script.next e.script c }
  match (e.script c).head? with
  | some (some f) => Act.fail f
  | _ =>
    if c.isWriting && e.consumed then Act.fail .consumedWriter
    else modify change

/-- Ask for a change at the next commit. -/
def enqueue (c : Change) (e : Engine) : Engine :=
  { e with pending := e.pending ++ [c] }

/-- Remove all documents at the next commit. -/
def deleteAll : Act Engine Unit :=
  use .deleteAllDocuments (enqueue .clear)

/-- Remove the documents with an id at the next commit. -/
def deleteId (id : String) : Act Engine Unit :=
  use .deleteDocuments (enqueue (.remove id))

/-- Remove the documents with a value as their id at the next commit. No id is a number, and other
values are never terms. -/
def deleteValue : Json.Value → Act Engine Unit
  | .text s => deleteId s
  | v => do
    use .deleteDocuments id
    match Clause.ofFilter ⟨.id, v⟩ with
    | .ok _ => return ()
    | .error f => Act.fail f

/-- Add a document at the next commit. -/
def addDocument (d : Document) : Act Engine Unit :=
  use .addDocument (enqueue (.add d))

/-- Carry out the changes that wait. -/
def commit : Act Engine Unit :=
  use .commit fun e => { e with committed := e.committed.changeAll e.pending, pending := [] }

/-- Forget the changes that wait. -/
def rollback : Act Engine Unit :=
  use .rollback fun e => { e with pending := [] }

/-- End the writer. -/
def waitMerging : Act Engine Unit :=
  use .waitMergingThreads fun e => { e with consumed := true }

/-- The engine whose next uses of a call fail. -/
def failing (c : Call) (times : Nat) (f : Fault) (e : Engine) : Engine :=
  { e with script := Script.failing e.script c times f }

instance : Source Engine Collection where
  reload := use .reload fun e => { e with visible := e.committed }
  snapshot := do
    use .searcher id
    return (← get).visible

end Engine

end CodeCatalog.Search
