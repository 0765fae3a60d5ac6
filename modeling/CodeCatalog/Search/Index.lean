/-
The search index of a folder: opening and closing it, writing, and searching.

An index is opened by one handle at a time. Opening claims the path, creates the folder if need be,
opens the collection that the last commit left there, and takes the writer. Every write commits
before it returns, and a write that fails is rolled back and reported. Searches never fail for want
of an index or because of a file or a value: they log and find nothing.

All actions work on a `Desk`: what the handles of a process share, one handle, the clock, and the
log.
-/
import CodeCatalog.Search.Engine
import CodeCatalog.Search.Limit
import CodeCatalog.Search.Saved

set_option autoImplicit false

namespace CodeCatalog.Search

open Log

/-! ## Handles and what they share -/

/-- What all handles share: the files, the paths claimed by open handles, and the folders whose
writer another program holds. -/
structure Shelf where
  files : Tree Artifact := {}
  /-- The working folder. -/
  folder : Path := ⟨1, []⟩
  claimed : List String := []
  held : List Place := []
  /-- How many processors there are for writer threads. -/
  processors : Nat := 8
  deriving Inhabited

/-- An engine that is open, with its readers and the folder it works in. -/
structure Session where
  engine : Watched Engine
  place : Place
  deriving Inhabited

/-- A handle on the index of a folder. -/
structure Index where
  path : Path
  /-- The resolved path, by which handles exclude each other. -/
  key : String
  /-- The memory of the writer in bytes. -/
  heap : Int
  /-- The number of writer threads, zero for as many as suit. -/
  threads : Int
  /-- How old the readers' view may get, in seconds. -/
  interval : Binary64
  session : Option Session := none
  deriving Inhabited

/-- A handle at work. -/
structure Desk where
  shelf : Shelf := {}
  index : Index
  now : Binary64 := .zero
  log : List Event := []
  deriving Inhabited

namespace Index

/-- The bytes of a megabyte of writer memory. -/
def bytesPerMegabyte : Int := 1000000

/-- A handle that is not open. The writer's memory is given in megabytes. -/
def new (folder path : Path) (heapMegabytes threads : Int) (interval : Binary64) : Index where
  path := path
  key := (Path.resolve folder path).text
  heap := heapMegabytes * bytesPerMegabyte
  threads := threads
  interval := interval

/-- Whether the handle is open. -/
def isOpen (i : Index) : Bool :=
  i.session.isSome

end Index

/-- An action on a handle. -/
abbrev IndexAct (α : Type) := Act Desk α

namespace Desk

/-! ## Small steps -/

/-- Add an event to the log. -/
def emit (level : Level) (name : String) (context : Json.Fields := []) : IndexAct Unit :=
  modify fun d => { d with log := d.log ++ [⟨level, name, context⟩] }

/-- The handle's resolved path as context of an event. -/
def pathContext (d : Desk) : Json.Fields :=
  [("path", .text d.index.key)]

/-- Change what the handles share. -/
def modifyShelf (f : Shelf → Shelf) : IndexAct Unit :=
  modify fun d => { d with shelf := f d.shelf }

/-- Change the handle's session. -/
def setSession (s : Option Session) : IndexAct Unit :=
  modify fun d => { d with index := { d.index with session := s } }

/-- Run an action on the engine and its readers; `absent` tells what happens without a session. -/
def onEngine {α : Type} (absent : Failure) (a : Act (Watched Engine) α) : IndexAct α :=
  Act.ofOutcome fun d =>
    match d.index.session with
    | none => (.error absent, d)
    | some s =>
      let (r, w) := a.outcome s.engine
      (r, { d with index := { d.index with session := some { s with engine := w } } })

/-- Run an action on the writer of an open index. -/
def onWriter (operation : String) (a : Act Engine Unit) : IndexAct Unit :=
  onEngine (.catalog (.closed operation)) (Watched.onSource a)

/-- Change the engine of an open index. -/
def modifyEngine (f : Engine → Engine) : IndexAct Unit :=
  modify fun d =>
    let session := d.index.session.map fun s =>
      { s with engine := { s.engine with source := f s.engine.source } }
    { d with index := { d.index with session } }

/-! ## Opening -/

/-- The file in which an index keeps its state. -/
def stateFile : String := "meta.json"

/-- The file in which an index lists its files. -/
def listFile : String := ".managed.json"

/-- The first list: the state file alone. -/
def firstList : ByteArray :=
  (Json.render (.list [.text stateFile])).toUTF8

/-- Claim the handle's path. -/
def claim : IndexAct Unit := do
  let d ← get
  if d.shelf.claimed.contains d.index.key then Act.refuse (.locked d.index.key)
  modifyShelf fun s => { s with claimed := d.index.key :: s.claimed }

/-- Give the handle's path up. -/
def unclaim : IndexAct Unit :=
  modify fun d => { d with
    shelf := { d.shelf with claimed := d.shelf.claimed.filter (· ≠ d.index.key) } }

/-- Give the path up and fail to open, as locked or for another reason. -/
def giveUp {α : Type} (locked : Bool) (reason : String) : IndexAct α := do
  unclaim
  let d ← get
  emit .error "search_index_open_failed" (d.pathContext ++ [("error", .text reason)])
  if locked then Act.refuse (.locked d.index.key)
  else Act.refuse (.openFailed d.index.key reason)

/-- Create the folder of the index. -/
def openFolder : IndexAct Place := do
  let d ← get
  match d.shelf.files.makeFolder d.shelf.folder.parts d.index.path with
  | .ok (files, place) =>
    modifyShelf fun s => { s with files := files }
    return place
  | .error f => giveUp false (Fault.file f).message

/-- Keep an empty collection in a folder. -/
def keepEmpty (place : Place) : IndexAct Collection := do
  modifyShelf fun s => { s with
    files := s.files.put (place ++ [stateFile]) (Artifact.collection {}).entry }
  return {}

/-- Check the list of the files of an index, if there is one. -/
def openList (place : Place) : IndexAct Unit := do
  match (← get).shelf.files.get? (place ++ [listFile]) with
  | none =>
    modifyShelf fun s => { s with files := s.files.put (place ++ [listFile]) (.file firstList) }
  | some (.file bytes) =>
    if let some o := listObstacle? bytes then giveUp o.isLocked o.reason
  | some _ => giveUp false "Is a directory"

/-- Open the collection in a folder, or create an empty one. A state file that describes another
index, or none, is refused. -/
def openCollection (place : Place) : IndexAct Collection := do
  openList place
  match (← get).shelf.files.get? (place ++ [stateFile]) with
  | some (.artifact (.collection c) _) => return c
  | some (.artifact .foreign _) => giveUp false "An index exists but the schema does not match."
  | some (.file bytes) =>
    match stateObstacle? bytes with
    | some o => giveUp o.isLocked o.reason
    | none => keepEmpty place
  | some .folder => giveUp false "Is a directory"
  | none => keepEmpty place

/-- The least memory of a writer thread in bytes. -/
def minThreadHeap : Nat := 15000000

/-- The least memory of a writer thread that is too much. -/
def maxThreadHeap : Nat := 4293967295

/-- How many threads share the memory: as many as asked for, or as suit the processors and the
memory. -/
def threadCount (processors heap threads : Nat) : Nat :=
  if threads ≠ 0 then threads
  else
    let most := max (min processors 8) 1
    if heap / most < minThreadHeap then max (heap / minThreadHeap) 1 else most

/-- Whether each thread's share of the memory is within bounds. -/
def heapFits (processors heap threads : Nat) : Bool :=
  let share := heap / threadCount processors heap threads
  minThreadHeap ≤ share && share < maxThreadHeap

/-- Take the writer. Numbers that are no machine words fail before anything else is looked at. -/
def openWriter (place : Place) : IndexAct Unit := do
  let d ← get
  match machineWord d.index.heap, machineWord d.index.threads with
  | .error f, _ => Act.fail f
  | _, .error f => Act.fail f
  | .ok heap, .ok threads =>
    if d.shelf.held.contains place then giveUp true "LockBusy"
    if !heapFits d.shelf.processors heap threads then giveUp false "memory arena out of range"

/-- Open the index. An index that is open stays as it is. -/
def openIndex : IndexAct Unit := do
  if !(← get).index.isOpen then
    claim
    let place ← openFolder
    let c ← openCollection place
    openWriter place
    let d ← get
    setSession (some {
      place := place
      engine := {
        source := { committed := c, visible := c }
        readers := { interval := d.index.interval } } })
    emit .info "search_index_opened" d.pathContext

/-! ## Closing -/

/-- Close the readers, telling their event. -/
def closeReaders : IndexAct Unit :=
  modify fun d =>
    match d.index.session with
    | none => d
    | some s =>
      let (w, events) := s.engine.close
      { d with index := { d.index with session := some { s with engine := w } },
               log := d.log ++ events }

/-- Give back everything that an open index holds. -/
def giveBack : IndexAct Unit := do
  setSession none
  unclaim
  emit .info "search_index_closed" (← get).pathContext

/-- Close the index. A fault of the ending writer is logged if it is one of a file or a value; any
other goes on after everything has been given back. -/
def closeIndex : IndexAct Unit := do
  if (← get).index.isOpen then
    closeReaders
    match ← Act.attempt (onWriter "close" Engine.waitMerging) with
    | .ok () => giveBack
    | .error (.fault f) =>
      if f.isFileOrValue then
        emit .warning "search_index_merge_wait_failed"
          ((← get).pathContext ++ [("error", .text f.message)])
        giveBack
      else
        giveBack
        Act.fail f
    | .error e => do
      giveBack
      throw e

/-! ## Writing -/

/-- Fail unless the index is open. -/
def requireWriter (operation : String) : IndexAct Unit := do
  if !(← get).index.isOpen then Act.refuse (.closed operation)

/-- Commit, and keep the collection in the folder. -/
def commit (operation : String) : IndexAct Unit := do
  onWriter operation Engine.commit
  modify fun d =>
    match d.index.session with
    | none => d
    | some s => { d with shelf := { d.shelf with
        files := d.shelf.files.put (s.place ++ [stateFile])
          (Artifact.collection s.engine.source.committed).entry } }

/-- Undo a failed write. A rollback that fails for a file or a value is logged. -/
def rollback (operation : String) : IndexAct Unit := do
  match ← Act.attempt (onWriter operation Engine.rollback) with
  | .ok () => return ()
  | .error (.fault f) =>
    if f.isFileOrValue then
      emit .warning "search_index_rollback_failed" [("error", .text f.message)]
    else Act.fail f
  | .error e => throw e

/-- Make commits visible, whatever the interval. -/
def requestRefresh : IndexAct Unit := do
  let now := (← get).now
  discard (onEngine (.catalog (.closed "refresh")) (Watched.maybeRefresh true now))

/-- Undo and report a write that failed. `event` tells of it. -/
def writeFailed {α : Type} (operation event : String) (context : Json.Fields) (e : Failure) :
    IndexAct α := do
  emit .error event (context ++ [("error", .text e.text)])
  rollback operation
  Act.refuse (.writeFailed operation e.text)

/-- Add the document of an element. -/
def addElement (operation : String) (e : Element) : IndexAct Unit := do
  match Document.ofElement e with
  | .ok d => onWriter operation (Engine.addDocument d)
  | .error f => Act.fail f

/-- Add documents for elements as they come, and tell how many were added before a failure. -/
def addElements : Feed → (count : Nat) → IndexAct (Nat × Option Failure)
  | [], count => return (count, none)
  | .error f :: _, count => return (count, some f)
  | .ok none :: _, count => return (count, some (.fault (.noMember .null "id")))
  | .ok (some e) :: rest, count => do
    match ← Act.attempt (addElement "build_index" e) with
    | .ok () => addElements rest (count + 1)
    | .error f => return (count, some f)

/-- The writes of a rebuild up to the commit, and how many documents were added. -/
def rebuild (es : Feed) : IndexAct (Nat × Option Failure) := do
  match ← Act.attempt (onWriter "build_index" Engine.deleteAll) with
  | .error f => return (0, some f)
  | .ok () =>
    match ← addElements es 0 with
    | (count, some f) => return (count, some f)
    | (count, none) =>
      match ← Act.attempt (commit "build_index") with
      | .error f => return (count, some f)
      | .ok () => return (count, none)

/-- Replace the whole index with one document per element, and tell how many there are. -/
def buildIndex (es : Feed) : IndexAct Nat := do
  requireWriter "build index"
  emit .info "search_index_build_started" (← get).pathContext
  match ← rebuild es with
  | (count, some f) =>
    writeFailed "build_index" "search_index_build_failed" [("indexed", .int count)] f
  | (count, none) =>
    requestRefresh
    emit .info "search_index_built" [("count", .int count)]
    return count

/-- Replace the documents of an element's id by its document. -/
def updateElement (element : Option Element) : IndexAct Unit := do
  match element with
  | none => Act.refuse (.missingArgument "element")
  | some e =>
    requireWriter "update element"
    let written ← Act.attempt do
      onWriter "update" (Engine.deleteId e.id)
      addElement "update" e
      commit "update"
    match written with
    | .error f =>
      writeFailed "update" "search_index_update_failed"
        [("element_id", .text e.id), ("full_name", .text e.fullName)] f
    | .ok () =>
      requestRefresh
      emit .debug "search_index_element_updated" [("element_id", .text e.id)]

/-- Remove the documents of an id. What counts as nothing is no id. -/
def deleteElement (id : Json.Value) : IndexAct Unit := do
  if id.isNothing then Act.refuse (.missingArgument "element_id")
  requireWriter "delete element"
  let written ← Act.attempt do
    onWriter "delete" (Engine.deleteValue id)
    commit "delete"
  match written with
  | .error f => writeFailed "delete" "search_index_delete_failed" [("element_id", id)] f
  | .ok () =>
    requestRefresh
    emit .debug "search_index_element_deleted" [("element_id", id)]

/-- Add a document as it is. -/
def addRaw (document : Document) : IndexAct Unit := do
  onWriter "add" (Engine.addDocument document)
  commit "add"
  requestRefresh

/-! ## Searching -/

/-- The failure of a read whose index has been closed meanwhile. -/
def closedMeanwhile : Failure :=
  .catalog (.closed "acquire a reader")

/-- Make commits visible before a search, unless that was done within the interval. -/
def refreshIfDue : IndexAct Unit := do
  let now := (← get).now
  discard (onEngine closedMeanwhile (Watched.maybeRefresh false now))

/-- The summaries of documents. -/
def summaries (ds : List Document) : Except Failure (List Summary) :=
  match ds.mapM Document.summary with
  | .ok ss => .ok ss
  | .error f => .error (.fault f)

/-- What a snapshot finds. The limit must be a machine word. -/
def lookUp (clauses : List Clause) (limit : Json.Value) (c : Collection) :
    Except Failure (List Summary) :=
  match Limit.word limit with
  | .error f => .error (.fault f)
  | .ok n => summaries (c.search clauses n)

/-- The part of a search that is guarded: the query, the refresh, and the look-up. No clauses stand
for a pattern without a word. -/
def searchGuarded (refresh : IndexAct Unit) (clauses : Except Fault (Option (List Clause)))
    (limit : Json.Value) : IndexAct (List Summary) := do
  match clauses with
  | .error f => Act.fail f
  | .ok none => return []
  | .ok (some cs) =>
    refresh
    onEngine closedMeanwhile (Watched.withSnapshot (lookUp cs limit))

/-- Search, and find nothing where the index is closed or a file or a value fails. `refresh` is done
between the query and the look-up. -/
def searchWith (refresh : IndexAct Unit) (operation : String) (context : Json.Fields)
    (limit : Json.Value) (clauses : Except Fault (Option (List Clause))) :
    IndexAct (List Summary) := do
  let operationContext : Json.Fields := [("operation", .text operation)]
  if !(← get).index.isOpen then
    emit .warning "search_on_closed_index" (operationContext ++ context)
    return []
  else if !(← Act.ofFault (Limit.hasRoom limit)) then
    return []
  else
    emit .debug operation ([("max_results", limit)] ++ context)
    match ← Act.attempt (searchGuarded refresh clauses limit) with
    | .ok found => return found
    | .error (.catalog _) =>
      emit .warning "search_on_closed_index" (operationContext ++ context)
      return []
    | .error (.fault f) =>
      if f.isFileOrValue then
        emit .error "search_failed" (operationContext ++ [("error", .text f.message)] ++ context)
        return []
      else Act.fail f

/-- A read of the index. Nothing checks what a caller gives. -/
inductive Read
  | byName (pattern limit : Json.Value)
  | byFullName (fullName : Json.Value)
  | byKind (kind limit : Json.Value)
  | byParent (parentId limit : Json.Value)
  | advanced (query : Query) (limit : Json.Value)
  deriving Repr, DecidableEq

namespace Read

/-- The name of a read in events. -/
def operation : Read → String
  | byName _ _ => "search_by_name_prefix"
  | byFullName _ => "search_by_full_name"
  | byKind _ _ => "search_by_kind"
  | byParent _ _ => "search_by_parent_id"
  | advanced _ _ => "advanced_search"

/-- What events tell of a read. -/
def context : Read → Json.Fields
  | byName pattern _ => [("pattern", pattern)]
  | byFullName fullName => [("full_name", fullName)]
  | byKind kind _ => [("kind", kind)]
  | byParent parentId _ => [("parent_id", parentId)]
  | advanced query _ => [("query", query.toRecord)]

/-- The most results of a read. -/
def limit : Read → Json.Value
  | byName _ n => n
  | byFullName _ => .int 1
  | byKind _ n => n
  | byParent _ n => n
  | advanced _ n => n

/-- The clauses of a read; none for a pattern without a word. -/
def clauses : Read → Except Fault (Option (List Clause))
  | byName pattern _ => (Clause.ofPatternValue pattern).map (·.map fun c => [c])
  | byFullName fullName => (Clause.ofFilter ⟨.fullName, fullName⟩).map fun c => some [c]
  | byKind kind _ => (kindOf kind).map fun k => some [.value .elementType k.name]
  | byParent parentId _ => (Clause.ofFilter ⟨.parentId, parentId⟩).map fun c => some [c]
  | advanced q _ => do return some (← (← q.filters).mapM Clause.ofFilter)

end Read

/-- Carry out a read with another step in place of the refresh. -/
def readWith (refresh : IndexAct Unit) (r : Read) : IndexAct (List Summary) :=
  searchWith refresh r.operation r.context r.limit r.clauses

/-- Carry out a read. -/
def read (r : Read) : IndexAct (List Summary) :=
  readWith refreshIfDue r

/-- Make every commit visible. -/
def refresh : IndexAct Unit := do
  let now := (← get).now
  onEngine (.catalog (.closed "refresh")) (Watched.refresh now)

/-- The number of documents that a read sees, zero where the index is closed. -/
def docCount : IndexAct Nat := do
  if !(← get).index.isOpen then return 0
  let count ← Act.attempt
    (onEngine closedMeanwhile (Watched.withSnapshot fun c => .ok c.live.length))
  match count with
  | .ok n => return n
  | .error (.catalog _) => return 0
  | .error (.fault f) => Act.fail f

end Desk

end CodeCatalog.Search
