/-
No action of a handle looks at the log.

A desk carries the log so that events come in their order, but nothing that is returned, raised or
left behind depends on what the log had before. `Blind` says so of an action: started with more
events in the log it does the same, and has the same events behind those. Runs that start from desks
with different pasts can therefore be compared step by step.

An open handle overlooks earlier events as it overlooks the files. Only opening looks at the files,
and so it has its own proof.
-/
import CodeCatalog.Proofs.Search.Overlooked

set_option autoImplicit false

namespace CodeCatalog.Search.Desk

open Act Log

variable {α β : Type}

/-- The desk with earlier events in the log. -/
def after (events : List Event) (d : Desk) : Desk :=
  { d with log := events ++ d.log }

/-- The action does the same whatever the log had before. -/
def Blind (a : IndexAct α) : Prop :=
  ∀ events, Unaware (after events) a

namespace Blind

/-- Being blind is running parallel from each past. -/
theorem iff_parallel {a : IndexAct α} :
    Blind a ↔ ∀ events, Parallel (fun d d' => d' = after events d) a :=
  forall_congr' fun _ => unaware_iff

theorem pure (x : α) : Blind (pure x : IndexAct α) :=
  iff_parallel.mpr fun _ => Parallel.pure x

theorem throw (e : Failure) : Blind (throw e : IndexAct α) :=
  iff_parallel.mpr fun _ => Parallel.throw e

theorem refuse (e : CatalogError) : Blind (refuse e : IndexAct α) :=
  throw _

theorem fail (f : Fault) : Blind (fail f : IndexAct α) :=
  throw _

/-- A change that does not touch the log, or only goes on at its end. -/
theorem modify {f : Desk → Desk} (hf : ∀ events d, f (after events d) = after events (f d)) :
    Blind (modify f : IndexAct PUnit) := by
  refine iff_parallel.mpr fun events => Parallel.modify ?_
  rintro d _ rfl
  exact hf events d

/-- Steps one after the other do not look back at the log if none of them does. -/
theorem bind {a : IndexAct α} {f : α → IndexAct β} (ha : Blind a) (hf : ∀ x, Blind (f x)) :
    Blind (a >>= f) :=
  iff_parallel.mpr fun events =>
    (iff_parallel.mp ha events).bind fun x => iff_parallel.mp (hf x) events

/-- What an action sees of the desk is not the log. -/
theorem bind_get {f : Desk → IndexAct β} (hsees : ∀ events d, f (after events d) = f d)
    (hf : ∀ d, Blind (f d)) : Blind (MonadState.get >>= f) := by
  refine iff_parallel.mpr fun events => Parallel.bind_get ?_ fun d => iff_parallel.mp (hf d) events
  rintro d _ rfl
  exact (hsees events d).symm

theorem ite {c : Prop} [Decidable c] {a b : IndexAct α} (ha : Blind a) (hb : Blind b) :
    Blind (if c then a else b) :=
  iff_parallel.mpr fun events => (iff_parallel.mp ha events).ite (iff_parallel.mp hb events)

end Blind

/-! ## Open handles

What an open handle overlooks includes what the log had before. -/

/-- Earlier events are overlooked: what is added to the log comes behind them. -/
theorem overlooked_after (events : List Event) : Overlooked fun d d' => d' = after events d where
  -- the index, the clock and the shelf do not see the log, and a new event stands behind the
  -- earlier ones
  index := by
    rintro d _ rfl
    rfl
  now := by
    rintro d _ rfl
    rfl
  setIndex := by
    rintro d _ i rfl
    rfl
  log := by
    rintro d _ new rfl
    rw [after, after, List.append_assoc]
  free := by
    rintro d _ key rfl
    rfl
  keep := by
    rintro d _ place entry rfl
    rfl

/-- What overlooks every difference that an open handle overlooks is blind for the log. -/
theorem Overlooked.blind {a : IndexAct α} (ha : ∀ {R}, Overlooked R → Parallel R a) : Blind a :=
  Blind.iff_parallel.mpr fun events => ha (overlooked_after events)

theorem blind_emit (level : Level) (name : String) (context : Json.Fields) :
    Blind (emit level name context) :=
  Overlooked.blind fun h => h.emit level name context

theorem blind_setSession (s : Option Session) : Blind (setSession s) :=
  Overlooked.blind fun h => h.setSession s

theorem blind_closeIndex : Blind closeIndex :=
  Overlooked.blind fun h => h.closeIndex

theorem blind_buildIndex (es : Feed) : Blind (buildIndex es) :=
  Overlooked.blind fun h => h.buildIndex es

theorem blind_updateElement (element : Option Element) : Blind (updateElement element) :=
  Overlooked.blind fun h => h.updateElement element

theorem blind_deleteElement (id : Json.Value) : Blind (deleteElement id) :=
  Overlooked.blind fun h => h.deleteElement id

theorem blind_read (r : Read) : Blind (read r) :=
  Overlooked.blind fun h => h.read r

theorem blind_refresh : Blind refresh :=
  Overlooked.blind fun h => h.refresh

theorem blind_docCount : Blind docCount :=
  Overlooked.blind fun h => h.docCount

theorem blind_modifyShelf (f : Shelf → Shelf) : Blind (modifyShelf f) :=
  Blind.modify fun _ _ => rfl

theorem blind_modifyEngine (f : Engine → Engine) : Blind (modifyEngine f) :=
  Blind.modify fun _ _ => rfl

/-! ## Opening

An opening looks at the files and at the claims, and each of its steps is gone through for the log.
-/

/-- The path of a handle is claimed or not by other handles. -/
theorem blind_claim : Blind claim := by
  refine Blind.bind_get (fun _ _ => rfl) fun d => ?_
  have hclaim : Blind (modifyShelf fun s => { s with claimed := d.index.key :: s.claimed }) :=
    blind_modifyShelf _
  exact Blind.ite ((Blind.refuse _).bind fun _ => hclaim) hclaim

theorem blind_unclaim : Blind unclaim :=
  Overlooked.blind fun h => h.unclaim

/-- Giving up frees the path, logs why, and raises that. -/
theorem blind_giveUp (locked : Bool) (reason : String) :
    Blind (giveUp locked reason : IndexAct α) := by
  refine blind_unclaim.bind fun _ => Blind.bind_get (fun _ _ => rfl) fun d => ?_
  exact (blind_emit _ _ _).bind fun _ => Blind.ite (Blind.refuse _) (Blind.refuse _)

/-- The folder of the index is made if need be. -/
theorem blind_openFolder : Blind openFolder := by
  refine Blind.bind_get (fun _ _ => rfl) fun d => ?_
  rcases d.shelf.files.makeFolder d.shelf.folder.parts d.index.path with f | ⟨files, place⟩
  · exact blind_giveUp _ _
  · exact (blind_modifyShelf _).bind fun _ => Blind.pure _

/-- The list of files is written if there is none, and read if there is one. -/
theorem blind_openList (place : Place) : Blind (openList place) := by
  refine Blind.bind_get (fun _ _ => rfl) fun d => ?_
  rcases d.shelf.files.get? (place ++ [listFile]) with _ | ⟨_ | bytes | _⟩
  · exact blind_modifyShelf _
  · exact blind_giveUp _ _
  · dsimp only
    rcases listObstacle? bytes with _ | o
    · exact Blind.pure _
    · exact blind_giveUp _ _
  · exact blind_giveUp _ _

/-- The collection is what the state file stands for. -/
theorem blind_openCollection (place : Place) : Blind (openCollection place) := by
  have hempty : Blind (keepEmpty place) := (blind_modifyShelf _).bind fun _ => Blind.pure _
  refine (blind_openList place).bind fun _ => Blind.bind_get (fun _ _ => rfl) fun d => ?_
  rcases d.shelf.files.get? (place ++ [stateFile]) with _ | ⟨_ | bytes | ⟨c | _⟩⟩
  · exact hempty
  · exact blind_giveUp _ _
  · dsimp only
    rcases stateObstacle? bytes with _ | o
    · exact hempty
    · exact blind_giveUp _ _
  · exact Blind.pure _
  · exact blind_giveUp _ _

/-- The memory of a writer is worked out from the settings of the handle. -/
theorem blind_openWriter (place : Place) : Blind (openWriter place) := by
  refine Blind.bind_get (fun _ _ => rfl) fun d => ?_
  rcases machineWord d.index.heap with f | heap
  · exact Blind.fail f
  rcases machineWord d.index.threads with f | threads
  · exact Blind.fail f
  have hfits : Blind (if !heapFits d.shelf.processors heap threads then
      giveUp false "memory arena out of range" else pure ()) :=
    Blind.ite (blind_giveUp _ _) (Blind.pure _)
  exact Blind.ite ((blind_giveUp _ _).bind fun _ => hfits) hfits

end CodeCatalog.Search.Desk
