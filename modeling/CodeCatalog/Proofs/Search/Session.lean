/-
What is true of a handle whatever was done with it, and whatever came of it.

`Backed` says that the last commit of an open index is what its folder keeps. An engine is told to
commit in one place, and the commit is kept there in the next step, which cannot fail. So this
outlives every write, those that fail in the middle included: a failed write may leave changes
waiting, and readers who do not see the last commit, but never a commit that the folder lacks.

`Shows` says more of an index that nobody writes to: a collection is kept in the folder, and an open
handle has nothing waiting and readers who see that collection. It outlives reading, closing and
opening. An opening may be refused, but it is refused without a change to the files.

`openIndex_behind` is about what ends this: somebody else writes behind the state of an index, and
from then on every opening is refused as if the index were open elsewhere.
-/
import CodeCatalog.Proofs.Search.Reading
import CodeCatalog.Proofs.Search.Struck

set_option autoImplicit false

namespace CodeCatalog.Search.Desk

open Act Log

variable {place : Place} {c : Collection} {d t : Desk}

/-! ## What writes keep

A write consists of calls that change what waits, of commits, of refreshes and of events in the log.
A property that outlives these, `Sturdy`, outlives every write, however it ends. -/

/-- The change is one of what waits, and of nothing else. -/
def OfWaiting (change : Engine → Engine) : Prop :=
  ∀ e, ∃ pending, change e = { e with pending := pending }

theorem ofWaiting_enqueue (x : Change) : OfWaiting (Engine.enqueue x) :=
  fun e => ⟨e.pending ++ [x], rfl⟩

theorem ofWaiting_id : OfWaiting id :=
  fun e => ⟨e.pending, rfl⟩

/-- What is asked of the engine to remove a value changes what waits, whatever becomes of it. -/
theorem deleteValue_leaves (v : Json.Value) : ∃ change, OfWaiting change ∧ ∀ e,
    ((Engine.deleteValue v).outcome e).2 = ((Engine.use .deleteDocuments change).outcome e).2 := by
  rcases v with _ | b | n | x | s | items | fields
  case text => exact ⟨_, ofWaiting_enqueue _, fun _ => rfl⟩
  -- what is not a text is refused after the call, what is a text is removed as an id
  all_goals
    refine ⟨id, ofWaiting_id, fun e => ?_⟩
    rw [Engine.deleteValue.eq_def, outcome_bind]
    rcases (Engine.use .deleteDocuments id).outcome e with ⟨f | _, t⟩
    · rfl
    · dsimp only
      split <;> rfl

/-- What is not lost by writing to the log, by a change of what waits, by a commit, or by a refresh.
-/
structure Sturdy (P : Desk → Prop) : Prop where
  log : ∀ d log, P d → P { d with log := log }
  call : ∀ operation call change, OfWaiting change →
    Keeps P (onWriter operation (Engine.use call change))
  commit : ∀ operation, Keeps P (commit operation)
  maybeRefresh : ∀ absent force now, Keeps P (onEngine absent (Watched.maybeRefresh force now))

namespace Sturdy

variable {P : Desk → Prop} (h : Sturdy P)

include h

theorem emit (level : Level) (name : String) (context : Json.Fields) :
    Keeps P (emit level name context) :=
  Keeps.modify fun d hd => h.log d _ hd

/-- The removal of a value is a change of what waits. -/
theorem deleteValue (operation : String) (v : Json.Value) :
    Keeps P (onWriter operation (Engine.deleteValue v)) := by
  obtain ⟨change, hchange, hleaves⟩ := deleteValue_leaves v
  intro d hd
  have hsame : ((onWriter operation (Engine.deleteValue v)).outcome d).2 =
      ((onWriter operation (Engine.use .deleteDocuments change)).outcome d).2 := by
    rw [onWriter, onWriter, onEngine, onEngine, outcome_ofOutcome, outcome_ofOutcome]
    rcases d.index.session with _ | s
    · rfl
    · simp only [Watched.onSource, outcome_onPart, hleaves]
  rw [hsame]
  exact h.call operation _ change hchange d hd

theorem requestRefresh : Keeps P requestRefresh :=
  Keeps.get.bind fun _ => (h.maybeRefresh _ _ _).discard

/-- A rollback gives up what waits, and its failure is only logged. -/
theorem rollback (operation : String) : Keeps P (rollback operation) := by
  have hcall : Keeps P (onWriter operation Engine.rollback) :=
    h.call operation _ _ fun e => ⟨[], rfl⟩
  refine hcall.attempt.bind fun r => ?_
  rcases r with (e | f) | _
  · exact Keeps.throw _
  · exact Keeps.ite (h.emit _ _ _) (Keeps.fail f)
  · exact Keeps.pure _

theorem writeFailed {α : Type} (operation event : String) (context : Json.Fields) (e : Failure) :
    Keeps P (writeFailed operation event context e : IndexAct α) :=
  (h.emit _ _ _).bind fun _ => (h.rollback _).bind fun _ => Keeps.refuse _

omit h in
theorem requireWriter (operation : String) : Keeps P (requireWriter operation) :=
  Keeps.get.bind fun _ => Keeps.ite (Keeps.refuse _) (Keeps.pure _)

/-- An element is projected and waits to be added. -/
theorem addElement (operation : String) (e : Element) : Keeps P (addElement operation e) := by
  rw [Desk.addElement]
  rcases Document.ofElement e with f | x
  · exact Keeps.fail f
  · exact h.call operation _ _ (ofWaiting_enqueue _)

/-- One element after the other waits to be added. -/
theorem addElements (es : Feed) (count : Nat) : Keeps P (addElements es count) := by
  induction es generalizing count with
  | nil => exact Keeps.pure _
  | cons x rest ih =>
    rcases x with f | _ | e
    · exact Keeps.pure _
    · exact Keeps.pure _
    · refine (h.addElement _ e).attempt.bind fun r => ?_
      rcases r with f | _
      · exact Keeps.pure _
      · exact ih _

/-- A build lets changes wait and commits them. -/
theorem rebuild (es : Feed) : Keeps P (rebuild es) := by
  have hclear : Keeps P (onWriter "build_index" Engine.deleteAll) :=
    h.call _ _ _ (ofWaiting_enqueue _)
  -- each of the three steps may fail, and the failure is given back and not raised
  refine hclear.attempt.bind fun r => ?_
  rcases r with f | _
  · exact Keeps.pure _
  refine (h.addElements es 0).bind fun r => ?_
  rcases r with ⟨count, _ | f⟩
  · refine (h.commit _).attempt.bind fun r => ?_
    rcases r with f | _
    · exact Keeps.pure _
    · exact Keeps.pure _
  · exact Keeps.pure _

/-- **Every write keeps what is sturdy**, whatever it is given and however it ends. -/
theorem buildIndex (es : Feed) : Keeps P (buildIndex es) := by
  refine (requireWriter _).bind fun _ => Keeps.get.bind fun _ => ?_
  refine (h.emit _ _ _).bind fun _ => (h.rebuild es).bind fun r => ?_
  rcases r with ⟨count, _ | f⟩
  · exact h.requestRefresh.bind fun _ => (h.emit _ _ _).bind fun _ => Keeps.pure _
  · exact h.writeFailed _ _ _ _

/-- An update removes what has the id and adds the element, and commits. -/
theorem updateElement (element : Option Element) : Keeps P (updateElement element) := by
  rcases element with _ | e
  · exact Keeps.refuse _
  have hdelete : Keeps P (onWriter "update" (Engine.deleteId e.id)) :=
    h.call _ _ _ (ofWaiting_enqueue _)
  have hwrite : Keeps P (do
      onWriter "update" (Engine.deleteId e.id)
      Desk.addElement "update" e
      Desk.commit "update") :=
    hdelete.bind fun _ => (h.addElement _ e).bind fun _ => h.commit _
  -- wherever the three steps are broken off, each of them has kept it
  refine (requireWriter _).bind fun _ => hwrite.attempt.bind fun r => ?_
  rcases r with f | _
  · exact h.writeFailed _ _ _ _
  · exact h.requestRefresh.bind fun _ => h.emit _ _ _

/-- A removal waits and is committed. -/
theorem deleteElement (id : Json.Value) : Keeps P (deleteElement id) := by
  have hwrite : Keeps P (do
      onWriter "delete" (Engine.deleteValue id)
      Desk.commit "delete") :=
    (h.deleteValue _ id).bind fun _ => h.commit _
  rw [Desk.deleteElement]
  -- no id at all is refused before the writer is asked
  by_cases hid : id.isNothing
  · rw [if_pos hid]
    intro d hd
    rw [outcome_bind, outcome_refuse]
    exact hd
  rw [if_neg hid]
  refine (requireWriter _).bind fun _ => hwrite.attempt.bind fun r => ?_
  rcases r with f | _
  · exact h.writeFailed _ _ _ _
  · exact h.requestRefresh.bind fun _ => h.emit _ _ _

end Sturdy

/-! ## What is committed is kept

A commit is kept in the folder in the step behind it, and no step comes between. So the property is
sturdy, and reading keeps it as well. -/

/-- **The last commit of an open index is what its folder keeps**, and its readers are at rest. -/
def Backed (d : Desk) : Prop :=
  ∀ s, d.index.session = some s → s.engine.readers.AtRest ∧
    Kept d.shelf.files d.shelf.folder d.index.path s.place s.engine.source.committed

/-- A closed handle has no commit that the folder could lack. -/
theorem backed_of_closed (h : d.index.session = none) : Backed d := by
  intro s hs
  rw [h] at hs
  exact absurd hs nofun

/-- Another engine with the same commit is backed as well. -/
theorem Backed.withEngine {s : Session} {w : Watched Engine} (hd : Backed d)
    (hs : d.index.session = some s) (hw : Watched.Unmoved s.engine.source.committed w) :
    Backed { d with index := { d.index with session := some { s with engine := w } } } := by
  intro s' hs'
  obtain rfl : { s with engine := w } = s' := Option.some.inj hs'
  refine ⟨hw.rest, ?_⟩
  rw [hw.committed]
  exact (hd s hs).2

/-- An action that commits nothing keeps what is backed. -/
theorem keeps_backed_onEngine {α : Type} {absent : Failure} {a : Act (Watched Engine) α}
    (ha : ∀ c, Keeps (Watched.Unmoved c) a) : Keeps Backed (onEngine absent a) := by
  refine keeps_onEngine_of fun d s hd hs => ?_
  exact ⟨_, ha s.engine.source.committed, ⟨(hd s hs).1, rfl⟩, fun w hw => hd.withEngine hs hw⟩

/-- Reading changes neither the last commit nor the files. -/
theorem steady_backed : Steady Backed := by
  refine steady_of_calm (fun _ _ h => h) fun d s hd hs => ?_
  exact ⟨_, Watched.calm_unmoved s.engine.source.committed, ⟨(hd s hs).1, rfl⟩,
    fun w hw => hd.withEngine hs hw⟩

/-- A call of the engine that only changes what waits leaves the last commit. -/
theorem keeps_committed_use {call : Call} {change : Engine → Engine}
    (hchange : OfWaiting change) (c : Collection) :
    Keeps (fun e : Engine => e.committed = c) (Engine.use call change) := by
  refine Engine.keeps_use (fun e he => ?_) fun _ he => he
  obtain ⟨pending, hpending⟩ := hchange e
  rw [hpending]
  exact he

/-- A commit that succeeds is kept in the folder in the next step, and one that fails is none. -/
theorem keeps_backed_commit (operation : String) : Keeps Backed (commit operation) := by
  intro d hd
  rw [commit, outcome_bind, onWriter, onEngine, outcome_ofOutcome]
  rcases hs : d.index.session with _ | s
  · exact hd
  obtain ⟨hrest, hkept⟩ := hd s hs
  dsimp only
  rw [Watched.onSource, outcome_onPart, Engine.commit, Engine.outcome_use]
  rcases s.engine.source.refusal? .commit with _ | f
  · -- what is committed is put into the folder at once
    rintro _ ⟨⟩
    exact ⟨hrest, hkept.keep _⟩
  · rintro _ ⟨⟩
    exact ⟨hrest, hkept⟩

/-- Nothing that a write consists of takes the last commit out of the folder. -/
theorem sturdy_backed : Sturdy Backed where
  log := steady_backed.log
  call _ _ _ hchange := keeps_backed_onEngine fun c w hw =>
    ⟨hw.rest, keeps_committed_use hchange c w.source hw.committed⟩
  commit := keeps_backed_commit
  maybeRefresh := steady_backed.maybeRefresh

/-- A build that returns was made in an open index. -/
theorem isOpen_of_buildIndex {es : Feed} {n : Nat} (h : (buildIndex es).outcome d = (.ok n, t)) :
    d.index.isOpen = true := by
  obtain ⟨_, d₁, h₁, -⟩ := outcome_bind_ok.mp h
  rw [requireWriter, outcome_bind, outcome_get] at h₁
  by_contra hclosed
  rw [Bool.not_eq_true] at hclosed
  dsimp only at h₁
  rw [hclosed] at h₁
  cases h₁

/-! ## Openings that are refused

All steps of an opening but the last leave the handle as it is, so an opening that is refused leaves
a closed handle closed. -/

/-- What says nothing of the log and of the claimed paths. -/
structure Aside (P : Desk → Prop) : Prop where
  log : ∀ d log, P d → P { d with log := log }
  claimed : ∀ d claimed, P d → P { d with shelf := { d.shelf with claimed := claimed } }

/-- The handle is this one, and the files that it looks for have not been touched. -/
structure Untouched (files : Tree Artifact) (folder : Path) (i : Index) (d : Desk) : Prop where
  files : d.shelf.files = files
  folder : d.shelf.folder = folder
  index : d.index = i

theorem aside_untouched (files : Tree Artifact) (folder : Path) (i : Index) :
    Aside (Untouched files folder i) :=
  ⟨fun _ _ h => ⟨h.files, h.folder, h.index⟩, fun _ _ h => ⟨h.files, h.folder, h.index⟩⟩

section Aside

variable {P : Desk → Prop} (hP : Aside P)

include hP

/-- A claim is no change of files or handle. -/
theorem Aside.claim : Keeps P claim := by
  refine Keeps.bind_get fun d hd => ?_
  by_cases hkey : d.shelf.claimed.contains d.index.key
  · rw [if_pos hkey, outcome_bind, outcome_refuse]
    exact hd
  · rw [if_neg hkey]
    exact hP.claimed d _ hd

/-- To give up never returns. -/
theorem Aside.outcomes_giveUp {α : Type} {Q : α → Desk → Prop} (locked : Bool) (reason : String) :
    Outcomes P (giveUp locked reason : IndexAct α) Q fun _ => P := by
  intro d hd
  unfold giveUp
  simp only [outcome_bind, unclaim, outcome_modify, outcome_get, emit, outcome_ite, outcome_refuse]
  have hleft := hP.log _ (d.log ++ [⟨.error, "search_index_open_failed",
    d.pathContext ++ [("error", .text reason)]⟩])
    (hP.claimed d (d.shelf.claimed.filter (· ≠ d.index.key)) hd)
  rcases locked
  · exact hleft
  · exact hleft

theorem Aside.giveUp {α : Type} (locked : Bool) (reason : String) :
    Keeps P (giveUp locked reason : IndexAct α) :=
  (hP.outcomes_giveUp locked reason).keeps

/-- A writer is refused by its settings, before there is one. -/
theorem Aside.openWriter : Keeps P (openWriter place) := by
  refine Keeps.get.bind fun d => ?_
  rcases machineWord d.index.heap with f | heap
  · exact Keeps.fail f
  rcases machineWord d.index.threads with f | threads
  · exact Keeps.fail f
  have hfits : Keeps P (if !heapFits d.shelf.processors heap threads then
      Desk.giveUp false "memory arena out of range" else pure ()) :=
    Keeps.ite (hP.giveUp _ _) (Keeps.pure _)
  exact Keeps.ite ((hP.giveUp _ _).bind fun _ => hfits) hfits

end Aside

/-- The last steps of an opening cannot fail. -/
theorem outcome_openSession_ne_error {e : Failure} (c : Collection) :
    (do
      let d ← get
      setSession (some {
        place := place
        engine := {
          source := { committed := c, visible := c }
          readers := { interval := d.index.interval } } })
      emit .info "search_index_opened" d.pathContext : IndexAct Unit).outcome d ≠
        (.error e, t) := by
  simp [setSession, emit, outcome_bind]

/-- An opening that fails leaves the handle as it was. -/
theorem index_of_openIndex_error {e : Failure} (hclosed : d.index.session = none)
    (h : openIndex.outcome d = (.error e, t)) : t.index = d.index := by
  rw [← openStruck_none] at h
  by_cases hclaimed : d.index.key ∈ d.shelf.claimed
  · rw [outcome_openStruck_claimed _ hclosed hclaimed] at h
    rw [← (Prod.mk.inj h).2]
  · exact ((outcomes_openStruck _ hclosed hclaimed).error ⟨rfl, rfl⟩ h).1

/-- An opening takes over what the folder keeps, so a new handle is backed from the start. -/
theorem keeps_backed_openIndex : Keeps Backed openIndex := by
  intro d hd
  -- refused or not, an opening of a closed handle either leaves it closed or finds what is kept
  by_cases hopen : d.index.isOpen = true
  · rw [outcome_openIndex_open hopen]
    exact hd
  rw [Bool.not_eq_true] at hopen
  rcases hr : openIndex.outcome d with ⟨e | _, t⟩
  · have hclosed := Index.isOpen_eq_false.mp hopen
    apply backed_of_closed
    rw [index_of_openIndex_error hclosed hr]
    exact hclosed
  · obtain ⟨place, c, files, hfound, hholds⟩ := openIndex_ok hopen hr
    intro s hs
    obtain ⟨rfl, hW⟩ := hholds.of_session hs
    obtain ⟨hshelf, w, hw, -⟩ := hholds
    refine ⟨hW.rest, ?_⟩
    rw [hW.committed, hshelf, hw]
    exact hfound.kept

/-! ## Closing

A closed handle has nothing that could be missing in its folder. -/

/-- A closed handle is backed, and a failing close changes nothing. -/
theorem keeps_backed_closeIndex : Keeps Backed closeIndex := by
  intro d hd
  rcases hs : d.index.session with _ | s
  · rw [outcome_closeIndex_closed hs]
    exact hd
  · have hopen : Open d.shelf d.index s.place (fun _ => True) d :=
      ⟨rfl, s.engine, by rw [← hs], trivial⟩
    refine backed_of_closed ?_
    rw [(stands_closeIndex hopen).2]

/-! ## What is kept is shown

What a handle shows is the collection that is kept in its folder, as long as nobody writes. -/

/-- **A collection is kept in the folder**, and an open handle has nothing else: nothing waits, and
readers see that collection. -/
structure Shows (place : Place) (c : Collection) (d : Desk) : Prop where
  kept : Kept d.shelf.files d.shelf.folder d.index.path place c
  session : ∀ s, d.index.session = some s →
    s.place = place ∧ Watched.Has False (.settled c) s.engine

/-- An open handle that shows a collection runs the engine that it has. -/
theorem Shows.open (h : Shows place c d) {s : Session} (hs : d.index.session = some s) :
    Open d.shelf d.index place (· = s.engine) d := by
  refine ⟨rfl, s.engine, ?_, rfl⟩
  rw [← (h.session s hs).1, ← hs]

/-- It holds the collection with nothing in flight. -/
theorem Shows.holds (h : Shows place c d) {s : Session} (hs : d.index.session = some s) :
    Holds False d.shelf d.index place (.settled c) d := by
  refine (h.open hs).mono ?_
  rintro _ rfl
  exact (h.session s hs).2

/-- What holds a kept collection with nothing in flight shows it. -/
theorem shows_of_holds {shelf : Shelf} {base : Index}
    (hkept : Kept shelf.files shelf.folder base.path place c)
    (h : Holds False shelf base place (.settled c) d) : Shows place c d := by
  refine ⟨?_, fun s hs => h.of_session hs⟩
  obtain ⟨rfl, w, hw, -⟩ := h
  rw [hw]
  exact hkept

/-- Reading changes nothing of what is shown; a refresh shows the same again. -/
theorem steady_shows : Steady (Shows place c) := by
  refine steady_of_calm (fun _ _ h => ⟨h.kept, h.session⟩) fun d s hd hs => ?_
  obtain ⟨hplace, hW⟩ := hd.session s hs
  refine ⟨_, Watched.calm_settled c, hW, fun w hw => ⟨hd.kept, fun s' hs' => ?_⟩⟩
  obtain rfl : s' = { s with engine := w } := (Option.some.inj hs').symm
  exact ⟨hplace, hw⟩

/-- A folder that is there is taken as it is. -/
theorem outcome_openFolder (hleads : d.shelf.files.Leads
    (if d.index.path.isAbsolute then [] else d.shelf.folder.parts) d.index.path.parts place) :
    openFolder.outcome d = (.ok place, d) := by
  have hmade : d.shelf.files.makeFolder d.shelf.folder.parts d.index.path =
    .ok (d.shelf.files, place) := hleads
  rw [openFolder, outcome_bind, outcome_get]
  dsimp only
  rw [hmade]
  rfl

/-- So is a list of files that is in order. -/
theorem outcome_openList {bytes : ByteArray}
    (hfile : d.shelf.files.get? (place ++ [listFile]) = some (.file bytes))
    (hok : listObstacle? bytes = none) : (openList place).outcome d = (.ok (), d) := by
  rw [openList, outcome_bind, outcome_get]
  dsimp only
  rw [hfile]
  dsimp only
  rw [hok]
  rfl

/-- What is opened there is the collection that is kept. -/
theorem outcome_openCollection (h : Kept d.shelf.files d.shelf.folder d.index.path place c) :
    (openCollection place).outcome d = (.ok c, d) := by
  obtain ⟨_, hfile, hok⟩ := h.list
  obtain ⟨bytes, hstate⟩ := Tree.exists_artifact h.state
  rw [openCollection, outcome_bind_of_ok (outcome_openList hfile hok), outcome_bind, outcome_get]
  dsimp only
  rw [hstate]
  rfl

/-- An opening that is refused where a collection is kept leaves the files and the handle. -/
theorem Shows.openIndex_error {e : Failure} (h : Shows place c d) (hclosed : d.index.isOpen = false)
    (hr : openIndex.outcome d = (.error e, t)) : Shows place c t := by
  have haside := aside_untouched d.shelf.files d.shelf.folder d.index
  have hshows : ∀ t, Untouched d.shelf.files d.shelf.folder d.index t → Shows place c t := by
    rintro t ⟨hfiles, hfolder, hindex⟩
    refine ⟨?_, ?_⟩
    · rw [hfiles, hfolder, hindex]
      exact h.kept
    · rw [hindex]
      exact h.session
  rw [openIndex, outcome_bind, outcome_get] at hr
  dsimp only at hr
  rw [hclosed, Bool.not_false, if_pos rfl] at hr
  rcases outcome_bind_error.mp hr with hr | ⟨_, d₁, h₁, hr⟩
  · exact hshows t (haside.claim.of_outcome ⟨rfl, rfl, rfl⟩ hr)
  -- folder and collection are found as they are
  have hd₁ := haside.claim.of_outcome ⟨rfl, rfl, rfl⟩ h₁
  have hkept := (hshows d₁ hd₁).kept
  rw [outcome_bind_of_ok (outcome_openFolder hkept.leads),
    outcome_bind_of_ok (outcome_openCollection hkept)] at hr
  rcases outcome_bind_error.mp hr with hr | ⟨_, d₂, h₂, hr⟩
  · exact hshows t (haside.openWriter.of_outcome hd₁ hr)
  · exact absurd hr (outcome_openSession_ne_error c)

/-- An opening shows what is kept, and one that is refused changes no file. -/
theorem keeps_shows_openIndex : Keeps (Shows place c) openIndex := by
  intro d hd
  by_cases hopen : d.index.isOpen = true
  · rw [outcome_openIndex_open hopen]
    exact hd
  rw [Bool.not_eq_true] at hopen
  rcases hr : openIndex.outcome d with ⟨e | _, t⟩
  · exact hd.openIndex_error hopen hr
  · obtain ⟨place', c', files, hfound, hholds⟩ := openIndex_ok hopen hr
    obtain ⟨rfl, rfl⟩ := hd.kept.unique hfound
    exact shows_of_holds hfound.kept hholds

/-- Closing leaves the collection where it is kept. -/
theorem keeps_shows_closeIndex : Keeps (Shows place c) closeIndex := by
  intro d hd
  rcases hs : d.index.session with _ | s
  · rw [outcome_closeIndex_closed hs]
    exact hd
  · obtain ⟨hshelf, hindex⟩ := stands_closeIndex (hd.open hs)
    refine ⟨?_, ?_⟩
    · rw [hshelf, hindex]
      exact hd.kept
    · rw [hindex]
      exact nofun

/-! ## Text behind the state

What happens to an index in whose folder somebody else writes, a log for instance. The list of files
is still in order, and the state is refused. -/

/-- A path that is free is claimed. -/
theorem outcome_claim (hfree : d.index.key ∉ d.shelf.claimed) : claim.outcome d =
    (.ok (), d.withShelf { d.shelf with claimed := d.index.key :: d.shelf.claimed }) := by
  have hcontains : d.shelf.claimed.contains d.index.key = false := by
    simpa using hfree
  rw [claim, outcome_bind, outcome_get]
  simp only [hcontains]
  rfl

/-- A state with text behind it is not opened. -/
theorem outcome_openCollection_behind {bytes : ByteArray} {rest : String}
    (hlist : d.shelf.files.get? (place ++ [listFile]) = some (.file bytes))
    (hok : listObstacle? bytes = none)
    (hstate : d.shelf.files.get? (place ++ [stateFile]) =
      some (.file (stateText ++ rest).toUTF8))
    (hrest : Json.skipSpace rest.toList ≠ []) :
    ∃ log, (openCollection place).outcome d = (.error (.catalog (.locked d.index.key)),
      { d with
        shelf := { d.shelf with claimed := d.shelf.claimed.filter (· ≠ d.index.key) }
        log := log }) := by
  refine ⟨d.log ++ [⟨.error, "search_index_open_failed", d.pathContext ++
    [("error", .text ("The text describes no index: " ++ (stateText ++ rest)))]⟩], ?_⟩
  rw [openCollection, outcome_bind_of_ok (outcome_openList hlist hok), outcome_bind, outcome_get]
  dsimp only
  rw [hstate]
  dsimp only
  rw [stateObstacle?_behind hrest]
  rfl

/-- **An index with text behind its state is locked for good**: nobody has it open, and yet every
opening of it is refused as if somebody had, and leaves the files and the claims as they are. -/
theorem openIndex_behind {rest : String}
    (h : Kept d.shelf.files d.shelf.folder d.index.path place c)
    (hclosed : d.index.isOpen = false) (hfree : d.index.key ∉ d.shelf.claimed)
    (hrest : Json.skipSpace rest.toList ≠ []) :
    let spoiled := { d.shelf with
      files := d.shelf.files.put (place ++ [stateFile]) (.file (stateText ++ rest).toUTF8) }
    ∃ log, openIndex.outcome (d.withShelf spoiled) = (.error (.catalog (.locked d.index.key)),
      { d with shelf := spoiled, log := log }) := by
  intro spoiled
  obtain ⟨bytes, hstate⟩ := Tree.exists_artifact h.state
  obtain ⟨list, hfile, hok⟩ := h.list
  let claimed := d.withShelf { spoiled with claimed := d.index.key :: d.shelf.claimed }
  have hclaim : claim.outcome (d.withShelf spoiled) = (.ok (), claimed) := outcome_claim hfree
  have hfolder : openFolder.outcome claimed = (.ok place, claimed) :=
    outcome_openFolder (h.leads.put (by rw [hstate]; nofun))
  have hlist : claimed.shelf.files.get? (place ++ [listFile]) = some (.file list) :=
    (Tree.get?_put_of_ne (list_ne_state place)).trans hfile
  obtain ⟨log, hcollection⟩ := outcome_openCollection_behind hlist hok
    (Tree.get?_put_self (append_singleton_ne_nil place stateFile)) hrest
  -- giving up takes back the claim, and nothing else was changed
  have hfreed : { claimed.shelf with
      claimed := claimed.shelf.claimed.filter (· ≠ d.index.key) } = spoiled := by
    show { spoiled with claimed := (d.index.key :: d.shelf.claimed).filter (· ≠ d.index.key) } = _
    rw [filter_claim hfree]
  have hclosed' : (d.withShelf spoiled).index.isOpen = false := hclosed
  refine ⟨log, ?_⟩
  rw [openIndex, outcome_bind, outcome_get]
  dsimp only
  rw [hclosed', Bool.not_false, if_pos rfl, outcome_bind_of_ok hclaim, outcome_bind_of_ok hfolder,
    outcome_bind_of_error hcollection]
  exact Prod.ext rfl (congrArg (fun shelf => { d with shelf := shelf, log := log }) hfreed)

/-! ## What lasts

Both properties outlive openings, closings and reads, and that is all that longer runs need of them.
-/

/-- What outlives everything that writes nothing: reading, opening and closing, the passing of time,
what an engine is told about failures, and what others claim. -/
structure Lasting (P : Desk → Prop) : Prop extends Steady P where
  openIndex : Keeps P openIndex
  closeIndex : Keeps P closeIndex
  turn : ∀ d now, P d → P { d with now := now }
  tell : ∀ script, Keeps P (modifyEngine fun e => { e with script := script })
  share : ∀ claimed held processors, Keeps P
    (modifyShelf fun s => { s with claimed := claimed, held := held, processors := processors })

/-- Opening, closing, reading and writing all leave the last commit in the folder. -/
theorem lasting_backed : Lasting Backed where
  toSteady := steady_backed
  openIndex := keeps_backed_openIndex
  closeIndex := keeps_backed_closeIndex
  turn _ _ h := h
  tell script := by
    intro d hd s' hs'
    obtain ⟨s, hs, rfl⟩ := Option.map_eq_some_iff.mp hs'
    exact hd s hs
  share _ _ _ := Keeps.modify fun _ h => h

/-- Opening, closing and reading leave a kept collection shown. -/
theorem lasting_shows : Lasting (Shows place c) where
  toSteady := steady_shows
  openIndex := keeps_shows_openIndex
  closeIndex := keeps_shows_closeIndex
  turn _ _ h := ⟨h.kept, h.session⟩
  tell script := by
    refine fun d hd => ⟨hd.kept, fun s' hs' => ?_⟩
    obtain ⟨s, hs, rfl⟩ := Option.map_eq_some_iff.mp hs'
    obtain ⟨hplace, hW⟩ := hd.session s hs
    exact ⟨hplace, hW.rest, hW.source.content, False.elim⟩
  share _ _ _ := Keeps.modify fun _ h => ⟨h.kept, h.session⟩

end CodeCatalog.Search.Desk
