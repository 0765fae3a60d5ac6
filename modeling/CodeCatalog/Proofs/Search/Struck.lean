/-
Openings that fail.

An opening claims the path first, and each step after that may fail: by itself, or because a fault
of any sort strikes it. `openStruck` is an opening with such faults, and the opening itself is the one
that nothing strikes. Whatever fails, the handle stays as it was (`GivenUp`). Its path is free again
where the failure is reported, and stays claimed where a fault gets out as it is.
-/
import CodeCatalog.Proofs.Search.Opening

set_option autoImplicit false

namespace CodeCatalog.Search

open Act Desk Log

/-! ## Openings that are struck

The faults that can strike an opening are those of the file system, of what it reads, and of the
engine. An opening catches the first two sorts. -/

/-- The steps of an opening that something outside can make fail. -/
inductive OpenStep
  | folder
  | collection
  | writer
  deriving Repr, DecidableEq

namespace Desk

/-- What an opening does about a fault that strikes it. It gives up for a file or a value, where a
message that mentions a lock is taken for one; any other fault gets out as it is. -/
def strike : Option Fault → IndexAct Unit
  | none => return ()
  | some f =>
    if f.sort = .value then giveUp (mentionsLock f.message) f.message
    else if f.sort = .file then giveUp false f.message
    else Act.fail f

/-- Open the index while faults strike some of the steps. -/
def openStruck (faults : OpenStep → Option Fault) : IndexAct Unit := do
  if !(← get).index.isOpen then
    claim
    strike (faults .folder)
    let place ← openFolder
    strike (faults .collection)
    let c ← openCollection place
    strike (faults .writer)
    openWriter place
    let d ← get
    setSession (some {
      place := place
      engine := {
        source := { committed := c, visible := c }
        readers := { interval := d.index.interval } } })
    emit .info "search_index_opened" d.pathContext

/-- An opening that nothing strikes is an opening. -/
theorem openStruck_none : openStruck (fun _ => none) = openIndex := by
  unfold openStruck openIndex
  simp only [strike, pure_bind]

/-! ## What an opening leaves

Each step passes the handle and the claims on as it found them, or ends the opening with the claim
given up or left behind. The rules for sequences are those of outcomes. -/

variable {i : Index} {claimed : List String} {shelf : Shelf} {place : Place} {d t : Desk}

/-- The handle is this one, and these paths are claimed. -/
def Holding (i : Index) (claimed : List String) (d : Desk) : Prop :=
  d.index = i ∧ d.shelf.claimed = claimed

/-- An opening has failed: the handle is as it was, and its path was given up just if the failure is
reported. -/
def GivenUp (i : Index) (claimed : List String) (e : Failure) (d : Desk) : Prop :=
  d.index = i ∧ (((∃ r, e = .catalog r) ∧ d.shelf.claimed = claimed.filter (· ≠ i.key)) ∨
    (∃ f, e = .fault f) ∧ d.shelf.claimed = claimed)

/-- What a step of an opening does to handle and claims. -/
abbrev Passes {α : Type} (i : Index) (claimed : List String) (a : IndexAct α) : Prop :=
  Outcomes (Holding i claimed) a (fun _ => Holding i claimed) (GivenUp i claimed)

/-- Giving up frees the path that was claimed and reports a failure. -/
theorem passes_giveUp {α : Type} (locked : Bool) (reason : String) :
    Passes i claimed (giveUp locked reason : IndexAct α) := by
  rintro d ⟨rfl, rfl⟩
  unfold giveUp
  simp only [outcome_bind, unclaim, outcome_modify, outcome_get, emit, outcome_ite, outcome_refuse]
  rcases locked
  · exact ⟨rfl, .inl ⟨⟨_, rfl⟩, rfl⟩⟩
  · exact ⟨rfl, .inl ⟨⟨_, rfl⟩, rfl⟩⟩

theorem passes_fail {α : Type} (f : Fault) : Passes i claimed (Act.fail f : IndexAct α) :=
  fun _ hd => ⟨hd.1, .inr ⟨⟨f, rfl⟩, hd.2⟩⟩

theorem passes_pure {α : Type} (x : α) : Passes i claimed (pure x : IndexAct α) :=
  fun _ hd => hd

theorem passes_files (f : Shelf → Tree Artifact) :
    Passes i claimed (modifyShelf fun s => { s with files := f s }) :=
  fun _ hd => hd

/-- A choice between steps of this kind. -/
theorem Passes.ite {α : Type} {c : Prop} [Decidable c] {a b : IndexAct α} (ha : Passes i claimed a)
    (hb : Passes i claimed b) : Passes i claimed (if c then a else b) := by
  by_cases h : c
  · rw [if_pos h]
    exact ha
  · rw [if_neg h]
    exact hb

/-- A step of this kind that depends on the desk. -/
theorem Passes.bind_get {β : Type} {f : Desk → IndexAct β} (hf : ∀ d, Passes i claimed (f d)) :
    Passes i claimed (MonadState.get >>= f) :=
  Outcomes.bind_get fun d hd => by
    rintro _ rfl
    exact hf _ _ hd

/-- A fault that strikes is given up for, or gets out. -/
theorem passes_strike (f : Option Fault) : Passes i claimed (strike f) := by
  rcases f with _ | f
  · exact passes_pure ()
  · exact (passes_giveUp _ _).ite ((passes_giveUp _ _).ite (passes_fail f))

/-- The folder is there, is made, or cannot be. -/
theorem passes_openFolder : Passes i claimed openFolder := by
  refine Passes.bind_get fun d => ?_
  rcases d.shelf.files.makeFolder d.shelf.folder.parts d.index.path with f | ⟨files, place⟩
  · exact passes_giveUp _ _
  · exact (passes_files fun _ => files).bind fun _ => passes_pure place

/-- The list is there, is made, or cannot be. -/
theorem passes_openList (place : Place) : Passes i claimed (openList place) := by
  refine Passes.bind_get fun d => ?_
  rcases d.shelf.files.get? (place ++ [listFile]) with _ | ⟨_ | bytes | _⟩
  · exact passes_files _
  · exact passes_giveUp _ _
  · dsimp only
    rcases listObstacle? bytes with _ | o
    · exact passes_pure ()
    · exact passes_giveUp _ _
  · exact passes_giveUp _ _

/-- The state file is read, written for an empty collection, or refused. -/
theorem passes_openCollection (place : Place) : Passes i claimed (openCollection place) := by
  have hempty : Passes i claimed (keepEmpty place) :=
    (passes_files _).bind fun _ => passes_pure _
  refine (passes_openList place).bind fun _ => Passes.bind_get fun d => ?_
  -- what lies at the place of the state file decides between a new index, an old one and giving up
  rcases d.shelf.files.get? (place ++ [stateFile]) with _ | ⟨_ | bytes | ⟨c | _⟩⟩
  · exact hempty
  · exact passes_giveUp _ _
  · dsimp only
    rcases stateObstacle? bytes with _ | o
    · exact hempty
    · exact passes_giveUp _ _
  · exact passes_pure _
  · exact passes_giveUp _ _

/-- A writer that cannot have its memory is given up for or gets out as a fault. -/
theorem passes_openWriter (place : Place) : Passes i claimed (openWriter place) := by
  refine Passes.bind_get fun d => ?_
  rcases machineWord d.index.heap with f | heap
  · exact passes_fail f
  rcases machineWord d.index.threads with f | threads
  · exact passes_fail f
  have hfits : Passes i claimed (if !heapFits d.shelf.processors heap threads then
      giveUp false "memory arena out of range" else pure ()) :=
    (passes_giveUp _ _).ite (passes_pure ())
  exact Passes.ite ((passes_giveUp _ _).bind fun _ => hfits) hfits

/-- A path that is claimed is not opened, and nothing is changed. -/
theorem outcome_openStruck_claimed (faults : OpenStep → Option Fault)
    (hclosed : d.index.session = none) (hclaimed : d.index.key ∈ d.shelf.claimed) :
    (openStruck faults).outcome d = (.error (.catalog (.locked d.index.key)), d) := by
  have hrefused : claim.outcome d = (.error (.catalog (.locked d.index.key)), d) := by
    rw [claim, outcome_bind, outcome_get]
    dsimp only
    rw [if_pos (List.contains_iff_mem.mpr hclaimed)]
    rfl
  rw [openStruck, outcome_bind, outcome_get]
  dsimp only
  rw [Index.isOpen_eq_false.mpr hclosed, Bool.not_false, if_pos rfl, outcome_bind_of_error hrefused]

/-- A handle that is open is not opened again, so nothing can strike. -/
theorem outcome_openStruck_open (faults : OpenStep → Option Fault) (hopen : d.index.isOpen = true) :
    (openStruck faults).outcome d = (.ok (), d) := by
  rw [openStruck, outcome_bind, outcome_get]
  dsimp only
  rw [hopen]
  rfl

/-- The session that a handle has when it has just been opened. -/
def fresh (i : Index) (place : Place) (c : Collection) : Session where
  place := place
  engine := { source := { committed := c, visible := c }, readers := { interval := i.interval } }

/-- **An opening of a free path**, whatever strikes it. -/
theorem outcomes_openStruck (faults : OpenStep → Option Fault) (hclosed : i.session = none)
    (hfree : i.key ∉ claimed) :
    Outcomes (Holding i claimed) (openStruck faults)
      (fun _ t => ∃ place c, Holding { i with session := some (fresh i place c) }
        (i.key :: claimed) t)
      fun e t => GivenUp i (i.key :: claimed) e t := by
  have hclaim : Outcomes (Holding i claimed) claim (fun _ => Holding i (i.key :: claimed))
      (GivenUp i (i.key :: claimed)) := by
    rintro d ⟨rfl, rfl⟩
    rw [claim, outcome_bind, outcome_get]
    dsimp only
    rw [if_neg (fun h => hfree (List.contains_iff_mem.mp h))]
    exact ⟨rfl, rfl⟩
  rintro d ⟨rfl, rfl⟩
  rw [openStruck, outcome_bind, outcome_get]
  dsimp only
  rw [Index.isOpen_eq_false.mpr hclosed, Bool.not_false, if_pos rfl]
  refine hclaim.bind (fun _ => ?_) d ⟨rfl, rfl⟩
  refine (passes_strike _).bind fun _ => passes_openFolder.bind fun place => ?_
  refine (passes_strike _).bind fun _ => (passes_openCollection place).bind fun c => ?_
  refine (passes_strike _).bind fun _ => (passes_openWriter place).bind fun _ => ?_
  -- nothing is left that could fail
  rintro t ⟨hindex, hclaimed⟩
  simp only [setSession, emit, outcome_bind, outcome_get, outcome_modify]
  refine ⟨place, c, ?_, hclaimed⟩
  dsimp only
  rw [hindex]
  rfl

end Desk

end CodeCatalog.Search
