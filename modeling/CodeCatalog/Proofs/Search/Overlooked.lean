/-
What a handle overlooks while it is open.

Writing, searching and closing look at the handle, its session and the clock. They add to the log,
give a claim up, and keep a collection in the folder of the index, but they look neither at what the
log had before nor at any file. So two desks that differ in such things alone (`Overlooked`) run in
parallel: what is returned or raised is the same for both, and afterwards they differ in the same way.

`Alike` is the difference of two processes that have opened the same index on different files, where
what they keep at one place is the same.
-/
import CodeCatalog.Proofs.Parallel
import CodeCatalog.Proofs.Storage.Tree
import CodeCatalog.Search.Index

set_option autoImplicit false

namespace CodeCatalog.Search.Desk

open Log

variable {α : Type}

/-- A difference of desks that does not concern an open handle. -/
structure Overlooked (R : Desk → Desk → Prop) : Prop where
  index : ∀ d d', R d d' → d.index = d'.index
  now : ∀ d d', R d d' → d.now = d'.now
  setIndex : ∀ d d' i, R d d' → R { d with index := i } { d' with index := i }
  log : ∀ d d' events, R d d' →
    R { d with log := d.log ++ events } { d' with log := d'.log ++ events }
  free : ∀ d d' key, R d d' →
    R { d with shelf := { d.shelf with claimed := d.shelf.claimed.filter (· ≠ key) } }
      { d' with shelf := { d'.shelf with claimed := d'.shelf.claimed.filter (· ≠ key) } }
  keep : ∀ d d' place entry, R d d' →
    R { d with shelf := { d.shelf with files := d.shelf.files.put place entry } }
      { d' with shelf := { d'.shelf with files := d'.shelf.files.put place entry } }

/-- Desks that differ in the files alone, and at one place stand for the same. -/
def Alike (q : Place) (d d' : Desk) : Prop :=
  ∃ files, d' = { d with shelf := { d.shelf with files := files } } ∧
    files.value? q = d.shelf.files.value? q

/-- Files that stand for the same at one place are such a difference: what is kept at any place is
put alike on both sides. -/
theorem overlooked_alike (q : Place) : Overlooked (Alike q) where
  index := by
    rintro d _ ⟨files, rfl, -⟩
    rfl
  now := by
    rintro d _ ⟨files, rfl, -⟩
    rfl
  setIndex := by
    rintro d _ i ⟨files, rfl, hq⟩
    exact ⟨files, rfl, hq⟩
  log := by
    rintro d _ events ⟨files, rfl, hq⟩
    exact ⟨files, rfl, hq⟩
  free := by
    rintro d _ key ⟨files, rfl, hq⟩
    exact ⟨files, rfl, hq⟩
  keep := by
    rintro d _ place entry ⟨files, rfl, hq⟩
    refine ⟨files.put place entry, rfl, ?_⟩
    -- the root stays a folder, any other place holds what was put there or what it held
    by_cases hroot : q = []
    · rw [hroot, Tree.value?_nil, Tree.value?_nil]
    · by_cases hplace : q = place
      · rw [hplace] at hroot ⊢
        rw [Tree.value?_put_self hroot, Tree.value?_put_self hroot]
      · rw [Tree.value?_put_of_ne hplace, Tree.value?_put_of_ne hplace]
        exact hq

namespace Overlooked

variable {R : Desk → Desk → Prop} (h : Overlooked R)

include h

/-- An action that starts by looking at the handle and the clock. -/
theorem bind_get {f : Desk → IndexAct α}
    (hsees : ∀ d d', d.index = d'.index → d.now = d'.now → f d = f d')
    (hf : ∀ d, Parallel R (f d)) : Parallel R (MonadState.get >>= f) :=
  Parallel.bind_get (fun d d' hd => hsees d d' (h.index d d' hd) (h.now d d' hd)) hf

/-! ## Small steps

Each of these touches one part of a desk, and the difference is made for such steps. -/

theorem emit (level : Level) (name : String) (context : Json.Fields) :
    Parallel R (emit level name context) :=
  Parallel.modify fun d d' hd => h.log d d' _ hd

/-- An event that tells of the handle is the same for both. -/
theorem emitOf (level : Level) (name : String) {context : Desk → Json.Fields}
    (hcontext : ∀ d d', d.index = d'.index → context d = context d') :
    Parallel R (do Desk.emit level name (context (← get))) := by
  refine h.bind_get (fun d d' hindex _ => ?_) fun d => h.emit level name _
  rw [hcontext d d' hindex]

/-- The session is a part of the handle, which both desks have alike. -/
theorem setSession (s : Option Session) : Parallel R (setSession s) := by
  refine Parallel.modify fun d d' hd => ?_
  rw [h.index d d' hd]
  exact h.setIndex d d' _ hd

/-- The engine is a part of the session; a closed handle refuses on both sides. -/
theorem onEngine (absent : Failure) (a : Act (Watched Engine) α) :
    Parallel R (onEngine absent a) := by
  intro d d' hd
  have hindex := h.index d d' hd
  show ((Desk.onEngine absent a).outcome d).1 = ((Desk.onEngine absent a).outcome d').1 ∧
    R ((Desk.onEngine absent a).outcome d).2 ((Desk.onEngine absent a).outcome d').2
  rw [Desk.onEngine, Act.outcome_ofOutcome, Act.outcome_ofOutcome, ← hindex]
  rcases d.index.session with _ | s
  · exact ⟨rfl, hd⟩
  · exact ⟨rfl, h.setIndex d d' _ hd⟩

theorem onWriter (operation : String) (a : Act Engine Unit) : Parallel R (onWriter operation a) :=
  h.onEngine _ _

/-! ## Closing

Closing looks at the session and at nothing that is overlooked. -/

/-- A path is given up on both sides, if the handle is what has claimed it. -/
theorem unclaim : Parallel R unclaim := by
  refine Parallel.modify fun d d' hd => ?_
  have hkey : d'.index.key = d.index.key := by rw [h.index d d' hd]
  simp only [hkey]
  exact h.free d d' d.index.key hd

/-- Readers close as the engine tells, and a fault of theirs is logged and goes no further. -/
theorem closeReaders : Parallel R closeReaders := by
  refine Parallel.modify fun d d' hd => ?_
  rw [← h.index d d' hd]
  rcases d.index.session with _ | s
  · exact hd
  · exact h.log _ _ s.engine.close.2 (h.setIndex d d'
      { d.index with session := some { s with engine := s.engine.close.1 } } hd)

theorem giveBack : Parallel R giveBack :=
  (h.setSession none).bind fun _ => h.unclaim.bind fun _ =>
    h.emitOf _ _ fun d d' hindex => by rw [pathContext, pathContext, hindex]

/-- Closing looks at the session alone. -/
theorem closeIndex : Parallel R closeIndex := by
  refine h.bind_get (fun d d' hindex _ => by rw [hindex]) fun d => Parallel.ite ?_ (Parallel.pure _)
  refine h.closeReaders.bind fun _ => (h.onWriter _ _).attempt.bind fun r => ?_
  rcases r with (e | f) | _
  · exact h.giveBack.bind fun _ => Parallel.throw _
  · refine Parallel.ite ?_ (h.giveBack.bind fun _ => Parallel.fail f)
    refine h.bind_get (fun d d' hindex _ => by rw [pathContext, pathContext, hindex]) fun d => ?_
    exact (h.emit _ _ _).bind fun _ => h.giveBack
  · exact h.giveBack

/-! ## Writing

A write is a row of small steps. So each of these proofs follows the definition and asks nothing but
that its steps run in parallel. -/

theorem requireWriter (operation : String) : Parallel R (requireWriter operation) :=
  h.bind_get (fun d d' hindex _ => by rw [hindex]) fun _ =>
    Parallel.ite (Parallel.refuse _) (Parallel.pure _)

/-- A commit is the engine's, and what it keeps is put in the folder of the session on both sides.
-/
theorem commit (operation : String) : Parallel R (commit operation) := by
  refine (h.onWriter _ _).bind fun _ => Parallel.modify fun d d' hd => ?_
  have hsession : d'.index.session = d.index.session := by rw [h.index d d' hd]
  simp only [hsession]
  rcases d.index.session with _ | s
  · exact hd
  · exact h.keep d d' (s.place ++ [stateFile])
      (Artifact.collection s.engine.source.committed).entry hd

/-- A rollback is tried on the engine, and what becomes of it is logged. -/
theorem rollback (operation : String) : Parallel R (rollback operation) := by
  refine (h.onWriter _ _).attempt.bind fun r => ?_
  rcases r with (e | f) | _
  · exact Parallel.throw _
  · exact Parallel.ite (h.emit _ _ _) (Parallel.fail f)
  · exact Parallel.pure _

theorem requestRefresh : Parallel R requestRefresh :=
  h.bind_get (fun d d' _ hnow => by rw [hnow]) fun _ => (h.onEngine _ _).discard

theorem writeFailed (operation event : String) (context : Json.Fields) (e : Failure) :
    Parallel R (writeFailed operation event context e : IndexAct α) :=
  (h.emit _ _ _).bind fun _ => (h.rollback _).bind fun _ => Parallel.refuse _

/-- An element is projected before the engine is told of it. -/
theorem addElement (operation : String) (e : Element) : Parallel R (addElement operation e) := by
  unfold Desk.addElement
  rcases Document.ofElement e with f | x
  · exact Parallel.fail f
  · exact h.onWriter _ _

/-- A feed is read element by element, and a failure ends it on both sides at the same one. -/
theorem addElements (es : Feed) (count : Nat) : Parallel R (addElements es count) := by
  induction es generalizing count with
  | nil => exact Parallel.pure _
  | cons x rest ih =>
    rcases x with f | _ | e
    · exact Parallel.pure _
    · exact Parallel.pure _
    · refine (h.addElement _ e).attempt.bind fun r => ?_
      rcases r with f | _
      · exact Parallel.pure _
      · exact ih _

/-- A build removes everything, adds the feed and commits, in this order. -/
theorem rebuild (es : Feed) : Parallel R (rebuild es) := by
  refine (h.onWriter _ _).attempt.bind fun r => ?_
  rcases r with f | _
  · exact Parallel.pure _
  refine (h.addElements es 0).bind fun r => ?_
  rcases r with ⟨count, _ | f⟩
  · refine (h.commit _).attempt.bind fun r => ?_
    rcases r with f | _
    · exact Parallel.pure _
    · exact Parallel.pure _
  · exact Parallel.pure _

/-- A build returns the same count or raises the same error whatever is overlooked. -/
theorem buildIndex (es : Feed) : Parallel R (buildIndex es) := by
  refine (h.requireWriter _).bind fun _ => ?_
  refine h.bind_get (fun d d' hindex _ => by rw [pathContext, pathContext, hindex]) fun _ => ?_
  refine (h.emit _ _ _).bind fun _ => (h.rebuild es).bind fun r => ?_
  rcases r with ⟨count, _ | f⟩
  · exact h.requestRefresh.bind fun _ => (h.emit _ _ _).bind fun _ => Parallel.pure _
  · exact h.writeFailed _ _ _ _

/-- So does an update. -/
theorem updateElement (element : Option Element) : Parallel R (updateElement element) := by
  rcases element with _ | e
  · exact Parallel.refuse _
  have hwrite : Parallel R (do
      Desk.onWriter "update" (Engine.deleteId e.id)
      Desk.addElement "update" e
      Desk.commit "update") :=
    (h.onWriter _ _).bind fun _ => (h.addElement _ e).bind fun _ => h.commit _
  refine (h.requireWriter _).bind fun _ => hwrite.attempt.bind fun r => ?_
  rcases r with f | _
  · exact h.writeFailed _ _ _ _
  · exact h.requestRefresh.bind fun _ => h.emit _ _ _

/-- So does a removal. -/
theorem deleteElement (id : Json.Value) : Parallel R (deleteElement id) := by
  have hwrite : Parallel R (do
      Desk.onWriter "delete" (Engine.deleteValue id)
      Desk.commit "delete") :=
    (h.onWriter _ _).bind fun _ => h.commit _
  refine Parallel.ite ((Parallel.refuse _).bind fun _ => ?_) ?_
  all_goals
    refine (h.requireWriter _).bind fun _ => hwrite.attempt.bind fun r => ?_
    rcases r with f | _
    · exact h.writeFailed _ _ _ _
    · exact h.requestRefresh.bind fun _ => h.emit _ _ _

/-! ## Reading

Reading looks at the clock and the readers, and adds to the log. -/

theorem refreshIfDue : Parallel R refreshIfDue :=
  h.bind_get (fun d d' _ hnow => by rw [hnow]) fun _ => (h.onEngine _ _).discard

/-- A search refreshes if that is due, asks the readers, and logs what it could not do. -/
theorem searchGuarded (clauses : Except Fault (Option (List Clause))) (limit : Json.Value) :
    Parallel R (searchGuarded Desk.refreshIfDue clauses limit) := by
  rcases clauses with f | _ | cs
  · exact Parallel.fail f
  · exact Parallel.pure _
  · exact h.refreshIfDue.bind fun _ => h.onEngine _ _

/-- Each read is such a search or a look-up of one document. -/
theorem read (r : Read) : Parallel R (read r) := by
  refine h.bind_get (fun d d' hindex _ => by rw [hindex]) fun d => ?_
  refine Parallel.ite ((h.emit _ _ _).bind fun _ => Parallel.pure _) ?_
  refine (Parallel.ofFault _).bind fun room => Parallel.ite (Parallel.pure _) ?_
  refine (h.emit _ _ _).bind fun _ => (h.searchGuarded _ _).attempt.bind fun found => ?_
  rcases found with (e | f) | found
  · exact (h.emit _ _ _).bind fun _ => Parallel.pure _
  · exact Parallel.ite ((h.emit _ _ _).bind fun _ => Parallel.pure _) (Parallel.fail f)
  · exact Parallel.pure _

theorem refresh : Parallel R refresh :=
  h.bind_get (fun d d' _ hnow => by rw [hnow]) fun _ => h.onEngine _ _

/-- The documents are counted by the readers, whose failure counts as none. -/
theorem docCount : Parallel R docCount := by
  refine h.bind_get (fun d d' hindex _ => by rw [hindex]) fun d => Parallel.ite (Parallel.pure _) ?_
  refine (h.onEngine _ _).attempt.bind fun count => ?_
  rcases count with (e | f) | n
  · exact Parallel.pure _
  · exact Parallel.fail f
  · exact Parallel.pure _

end Overlooked

end CodeCatalog.Search.Desk
