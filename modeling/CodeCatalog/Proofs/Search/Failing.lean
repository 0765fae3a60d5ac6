/-
How a write ends, whatever the engine refuses.

A write is a row of steps up to a commit (`Write.steps`). Wherever the row is broken off, what waits
is what waited before and a beginning of the changes of the write, and nothing has been committed.
Then a rollback is asked for, and it decides: accepted, it leaves nothing waiting; refused for a file
or a value, it is only logged, and the beginning goes on waiting; refused otherwise, the refusal gets
out in place of the report. Where all steps succeed the commit stands, and only the reload after it
can still be refused, which gets out as well. `Ending` lists these five; an engine that refuses
nothing leaves two of them (`Ending.of_willing`).

`Writing` says what a success means. Here the failures are described as exactly as the successes, so
the steps have a postcondition for each of the two, and it is tracked which turns of the script have
not been used: a step never takes the turn of a rollback or of a reload.
-/
import CodeCatalog.Proofs.Search.Document
import CodeCatalog.Proofs.Search.Writing
import CodeCatalog.Proofs.Store.History

set_option autoImplicit false

namespace CodeCatalog.Search

open Act Desk

/-! ## Writes

The three writes have one form: they are refused at the door, or make their steps and commit. What
they are to change is known beforehand. -/

/-- What comes back from a handle. -/
inductive Answer
  | done
  | count (n : Nat)
  | found (summaries : List Summary)
  deriving Repr, DecidableEq

/-- A write of an index, with what it is given. -/
inductive Write
  | build (es : Feed)
  | update (element : Option Element)
  | delete (id : Json.Value)

namespace Write

def action : Write → IndexAct Answer
  | build es => do return .count (← buildIndex es)
  | update element => do
    updateElement element
    return .done
  | delete id => do
    deleteElement id
    return .done

/-- The name of a write in its report. -/
def operation : Write → String
  | build _ => "build_index"
  | update _ => "update"
  | delete _ => "delete"

/-- Whether a write has the argument that it needs. -/
def isPresent : Write → Bool
  | build _ => true
  | update element => element.isSome
  | delete id => !id.isNothing

/-- What a write does up to its commit, failing as the first step does that fails. -/
def steps : Write → IndexAct Unit
  | build es => do
    emit .info "search_index_build_started" (← get).pathContext
    match ← rebuild es with
    | (_, none) => return ()
    | (_, some f) => throw f
  | update none => return ()
  | update (some e) => do
    onWriter "update" (Engine.deleteId e.id)
    addElement "update" e
    commit "update"
  | delete id => do
    onWriter "delete" (Engine.deleteValue id)
    commit "delete"

/-- The changes that a write asks for. A value that is no text is the id of no document. -/
def changes : Write → List Change
  | build es => .clear :: (Store.added es).map fun e => .add (projection e)
  | update none => []
  | update (some e) => [.remove e.id, .add (projection e)]
  | delete (.text id) => [.remove id]
  | delete _ => []

/-- What a write makes of the documents. -/
def effect : Write → List Document → List Document
  | build es, _ => (Store.added es).map projection
  | update none, ds => ds
  | update (some e), ds => ds.filter (!Collection.hasId e.id ·) ++ [projection e]
  | delete (.text id), ds => ds.filter (!Collection.hasId id ·)
  | delete _, ds => ds

/-- A build removes everything and adds the last element with each id. -/
theorem changes_build (es : Feed) :
    (Write.build es).changes = [.clear] ++ ((Store.added es).map projection).map .add := by
  rw [List.map_map]
  rfl

/-- The changes of a write have its effect. -/
theorem live_changeAll_changes (w : Write) (c : Collection) :
    (c.changeAll w.changes).live = w.effect c.live := by
  rcases w with es | (_ | e) | id
  · rw [changes_build]
    exact Collection.live_changeAll_clear c [] _
  · rfl
  · rfl
  · cases id <;> rfl

end Write

/-! ## Engines in the middle of a write

In the middle of a write some of its changes wait. `Along` says so of an engine whose script is
ahead as far as rollback and reload go, which no step of a write uses. -/

namespace Content

/-- More changes wait. -/
def draft (k : Content) (cs : List Change) : Content :=
  { k with pending := k.pending ++ cs }

theorem draft_nil (k : Content) : k.draft [] = k := by
  rw [draft, List.append_nil]

theorem draft_draft (k : Content) (xs ys : List Change) :
    (k.draft xs).draft ys = k.draft (xs ++ ys) := by
  rw [draft, draft, draft, List.append_assoc]

/-- What waited is forgotten. -/
def rollback (k : Content) : Content :=
  { k with pending := [] }

end Content

namespace Engine

/-- What a call does to an engine besides asking the script, if it concerns the content alone. -/
structure OfContent (change : Engine → Engine) : Prop where
  script : ∀ e, (change e).script = e.script
  consumed : ∀ e, (change e).consumed = e.consumed

/-- The engine holds something else than `e₀` did, but it ends a write as that one would. -/
structure Along (e₀ : Engine) (k : Content) (e : Engine) : Prop where
  content : e.content = k
  consumed : e.consumed = e₀.consumed
  rollback : e.refusal? .rollback = e₀.refusal? .rollback
  reload : e.refusal? .reload = e₀.refusal? .reload

variable {e₀ e : Engine} {k k' : Content} {c : Call}

/-- A change of the content does not tell an engine how to fail. -/
theorem OfContent.refusal? {change : Engine → Engine} (h : OfContent change) (e : Engine)
    (c : Call) :
    (change e).refusal? c = e.refusal? c := by
  unfold Engine.refusal?
  rw [h.script, h.consumed]

/-- A call that goes on brings neither the rollback nor the reload nearer. -/
theorem Along.spend (h : Along e₀ k e) (hc : c ≠ .rollback ∧ c ≠ .reload) :
    Along e₀ k (e.spend c) where
  content := h.content
  consumed := h.consumed
  rollback := (refusal?_spend hc.1.symm e).trans h.rollback
  reload := (refusal?_spend hc.2.symm e).trans h.reload

/-- A call in the middle of a write makes its change, or it is refused and changes nothing. -/
theorem outcomes_use (c : Call) {change : Engine → Engine} (hchange : OfContent change)
    (hcontent : ∀ e, e.content = k → (change e).content = k')
    (hc : c ≠ .rollback ∧ c ≠ .reload) :
    Outcomes (Along e₀ k) (use c change) (fun _ => Along e₀ k') fun _ => Along e₀ k := by
  intro e he
  have hspent : Along e₀ k (e.spend c) := he.spend hc
  rw [outcome_use]
  rcases e.refusal? c with _ | f
  · exact ⟨hcontent _ hspent.content, (hchange.consumed _).trans hspent.consumed,
      (hchange.refusal? _ _).trans hspent.rollback, (hchange.refusal? _ _).trans hspent.reload⟩
  · exact hspent

/-- A change waits, or the engine refuses and nothing more waits. -/
theorem outcomes_enqueue (c : Call) (x : Change) (hc : c ≠ .rollback ∧ c ≠ .reload) :
    Outcomes (Along e₀ k) (use c (enqueue x)) (fun _ => Along e₀ (k.draft [x]))
      fun _ => Along e₀ k := by
  refine outcomes_use c ⟨fun _ => rfl, fun _ => rfl⟩ ?_ hc
  intro e he
  rw [← he]
  rfl

/-- So does the removal of a value. -/
theorem outcomes_deleteValue (v : Json.Value) :
    Outcomes (Along e₀ k) (deleteValue v)
      (fun _ => Along e₀ (k.draft (Write.delete v).changes)) fun _ => Along e₀ k := by
  have hcall : Outcomes (Along e₀ k) (use .deleteDocuments id)
      (fun _ => Along e₀ (k.draft [])) fun _ => Along e₀ k := by
    rw [k.draft_nil]
    exact outcomes_use _ ⟨fun _ => rfl, fun _ => rfl⟩ (fun _ he => he) (by decide)
  rcases v with _ | b | n | x | s | items | fields
  case text => exact outcomes_enqueue _ (.remove s) (by decide)
  -- what is no text is asked for as a value that no document has, and refused if it has no term
  all_goals
    apply hcall.bind
    intro _
    split
    · exact Outcomes.pure fun _ he => he
    · rw [k.draft_nil]
      exact Outcomes.fail fun _ he => he

end Engine

namespace Watched

/-- The readers are as they were over an engine that holds something else. -/
structure Along (w₀ : Watched Engine) (k : Content) (w : Watched Engine) : Prop where
  readers : w.readers = w₀.readers
  source : Engine.Along w₀.source k w.source

variable {w₀ w : Watched Engine} {k k' : Content}

theorem Along.refl (w : Watched Engine) : Along w w.source.content w :=
  ⟨rfl, rfl, rfl, rfl, rfl⟩

/-- What is done to the engine in the middle of a write leaves its readers alone. -/
theorem outcomes_onSource {a : Act Engine Unit}
    (ha : Outcomes (Engine.Along w₀.source k) a (fun _ => Engine.Along w₀.source k')
      fun _ => Engine.Along w₀.source k) :
    Outcomes (Along w₀ k) (onSource a) (fun _ => Along w₀ k') fun _ => Along w₀ k := by
  intro w hw
  have h := ha w.source hw.source
  rw [onSource, outcome_onPart]
  rcases hr : a.outcome w.source with ⟨e | x, t⟩ <;> rw [hr] at h
  · exact ⟨hw.readers, h⟩
  · exact ⟨hw.readers, h⟩

/-- What a write leaves of an engine and its readers, but for the script. -/
structure Left (readers : Readers) (consumed : Bool) (k : Content) (w : Watched Engine) : Prop where
  readers : w.readers = readers
  content : w.source.content = k
  consumed : w.source.consumed = consumed

/-- A rollback gives up what waits, unless the engine refuses. -/
theorem outcomes_rollback : Outcomes (Along w₀ k) (onSource Engine.rollback)
    (fun _ w => w₀.source.refusal? .rollback = none ∧
      Left w₀.readers w₀.source.consumed k.rollback w)
    fun e w => ∃ f, w₀.source.refusal? .rollback = some f ∧ e = .fault f ∧
      Left w₀.readers w₀.source.consumed k w := by
  intro w hw
  rw [onSource, outcome_onPart, Engine.rollback, Engine.outcome_use, hw.source.rollback]
  rcases w₀.source.refusal? .rollback with _ | f
  · refine ⟨rfl, hw.readers, ?_, hw.source.consumed⟩
    rw [← hw.source.content]
    rfl
  · exact ⟨f, rfl, rfl, hw.readers, hw.source.content, hw.source.consumed⟩

/-- A forced reload of readers at rest shows the last commit, or it is refused and shows nothing. -/
theorem outcomes_maybeRefresh_force {now : Binary64} (hrest : w₀.readers.AtRest) :
    Outcomes (Along w₀ k) (maybeRefresh true now)
      (fun _ w => w₀.source.refusal? .reload = none ∧
        Left { w₀.readers with lastReload := now } w₀.source.consumed k.reload w)
      fun e w => ∃ f, w₀.source.refusal? .reload = some f ∧ e = .fault f ∧
        Left w₀.readers w₀.source.consumed k w := by
  intro w hw
  have hrest' : w.readers.AtRest := by
    rw [hw.readers]
    exact hrest
  rw [outcome_maybeRefresh_force hrest', outcome_reload, hw.source.reload]
  -- only the reload can fail here: the lock is free and the readers serve
  rcases w₀.source.refusal? .reload with _ | f
  · refine ⟨rfl, ?_, ?_, hw.source.consumed⟩
    · dsimp only
      rw [hw.readers]
    · rw [← hw.source.content]
      rfl
  · exact ⟨f, rfl, rfl, hw.readers, hw.source.content, hw.source.consumed⟩

end Watched

/-! ## The steps of a write

Each step lets changes wait or commits them, or fails with what waited before it. `Broken` is a
write of which some first changes wait. -/

namespace Desk

variable {shelf : Shelf} {base : Index} {place : Place} {w₀ : Watched Engine} {k k' : Content}
  {d t : Desk} {α : Type}

/-- The handle is open in the middle of a write. -/
abbrev Amid (shelf : Shelf) (base : Index) (place : Place) (w₀ : Watched Engine) (k : Content) :
    Desk → Prop :=
  Open shelf base place (Watched.Along w₀ k)

/-- A write was broken off: of its changes a beginning waits. -/
def Broken (shelf : Shelf) (base : Index) (place : Place) (w₀ : Watched Engine) (k : Content)
    (changes : List Change) (d : Desk) : Prop :=
  ∃ cs, cs <+: changes ∧ Amid shelf base place w₀ (k.draft cs) d

/-- What is done to the engine of an open handle leaves the handle open. -/
theorem outcomes_onEngine {absent : Failure} {W : Watched Engine → Prop}
    {a : Act (Watched Engine) α} {Q : α → Watched Engine → Prop} {E : Failure → Watched Engine → Prop}
    (ha : Outcomes W a Q E) :
    Outcomes (Open shelf base place W) (onEngine absent a) (fun x => Open shelf base place (Q x))
      fun e => Open shelf base place (E e) := by
  rintro d ⟨hshelf, w, hw, hW⟩
  have h := ha w hW
  rw [onEngine, outcome_ofOutcome, hw]
  dsimp only
  rcases hr : a.outcome w with ⟨e | x, t⟩ <;> rw [hr] at h
  · exact ⟨hshelf, t, rfl, h⟩
  · exact ⟨hshelf, t, rfl, h⟩

/-- A call of the writer is along, whether it is refused or not. -/
theorem outcomes_onWriter {operation : String} {a : Act Engine Unit}
    (ha : Outcomes (Engine.Along w₀.source k) a (fun _ => Engine.Along w₀.source k')
      fun _ => Engine.Along w₀.source k) :
    Outcomes (Amid shelf base place w₀ k) (onWriter operation a)
      (fun _ => Amid shelf base place w₀ k') fun _ => Amid shelf base place w₀ k :=
  outcomes_onEngine (Watched.outcomes_onSource ha)

/-- A commit carries out what waits, or it is refused and carries out nothing of it. -/
theorem outcomes_commit (operation : String) :
    Outcomes (Amid shelf base place w₀ k) (commit operation)
      (fun _ => Amid (shelf.keep place k.commit.committed) base place w₀ k.commit)
      fun _ => Amid shelf base place w₀ k := by
  -- a commit that is refused leaves the content, whatever the refusal
  have hcall : Outcomes (Engine.Along w₀.source k) Engine.commit
      (fun _ => Engine.Along w₀.source k.commit) fun _ => Engine.Along w₀.source k := by
    refine Engine.outcomes_use _ ⟨fun _ => rfl, fun _ => rfl⟩ ?_ (by decide)
    intro e he
    rw [← he]
    rfl
  apply (outcomes_onWriter hcall).bind
  intro _
  apply Outcomes.modify
  rintro d ⟨hshelf, w, hw, hW⟩
  have hcommitted : w.source.committed = k.commit.committed :=
    congrArg Content.committed hW.source.content
  simp only [hw]
  refine ⟨?_, w, rfl, hW⟩
  simp only [Shelf.keep, hshelf, hcommitted]

/-- An element waits to be added, or nothing more waits. -/
theorem outcomes_addElement (operation : String) (e : Element) :
    Outcomes (Amid shelf base place w₀ k) (addElement operation e)
      (fun _ => Amid shelf base place w₀ (k.draft [.add (projection e)]))
      fun _ => Amid shelf base place w₀ k := by
  unfold addElement
  rcases hx : Document.ofElement e with f | x
  · exact Outcomes.fail fun _ hd => hd
  · rw [← ofElement_ok hx]
    exact outcomes_onWriter (Engine.outcomes_enqueue _ _ (by decide))

/-- What is broken off after some changes is broken off in the whole. -/
theorem Broken.behind {cs changes : List Change}
    (h : Broken shelf base place w₀ (k.draft cs) changes d) :
    Broken shelf base place w₀ k (cs ++ changes) d := by
  obtain ⟨xs, hxs, hd⟩ := h
  rw [Content.draft_draft] at hd
  exact ⟨cs ++ xs, (List.prefix_append_right_inj cs).mpr hxs, hd⟩

/-- A write that breaks off at once has done nothing. -/
theorem Amid.broken (h : Amid shelf base place w₀ k d) (changes : List Change) :
    Broken shelf base place w₀ k changes d := by
  refine ⟨[], List.nil_prefix, ?_⟩
  rw [k.draft_nil]
  exact h

/-- Elements that come one after another wait as documents, up to the first that is refused. -/
theorem outcomes_addElements (es : Feed) (count : Nat) :
    Outcomes (Amid shelf base place w₀ k) (addElements es count)
      (fun r d => match r.2 with
        | none => Amid shelf base place w₀
            (k.draft ((Store.added es).map fun e => .add (projection e))) d
        | some _ => Broken shelf base place w₀ k
            ((Store.added es).map fun e => .add (projection e)) d)
      fun _ _ => False := by
  -- each element makes what waits longer by one, so the content is generalized with the count
  induction es generalizing count k with
  | nil =>
    apply Outcomes.pure
    intro d hd
    show Amid shelf base place w₀ (k.draft []) d
    rw [k.draft_nil]
    exact hd
  | cons x rest ih =>
    rcases x with f | _ | e
    · exact Outcomes.pure fun d hd => Amid.broken hd _
    · exact Outcomes.pure fun d hd => Amid.broken hd _
    · apply (outcomes_addElement "build_index" e).attempt.bind
      rintro (f | _)
      · exact Outcomes.pure fun d hd => Amid.broken hd _
      · apply (ih (k := k.draft [.add (projection e)]) (count + 1)).mono _ fun _ _ => id
        rintro ⟨n, _ | f⟩ d hd
        · rw [Content.draft_draft] at hd
          exact hd
        · exact hd.behind

/-- A build is committed as a whole, or breaks off on the way. -/
theorem outcomes_rebuild (es : Feed) :
    Outcomes (Amid shelf base place w₀ k) (rebuild es)
      (fun r d => match r.2 with
        | none => Amid (shelf.keep place (k.draft (Write.build es).changes).commit.committed) base
            place w₀ (k.draft (Write.build es).changes).commit d
        | some _ => Broken shelf base place w₀ k (Write.build es).changes d)
      fun _ _ => False := by
  have hclear : Outcomes (Amid shelf base place w₀ k) (onWriter "build_index" Engine.deleteAll)
      (fun _ => Amid shelf base place w₀ (k.draft [.clear])) fun _ => Amid shelf base place w₀ k :=
    outcomes_onWriter (Engine.outcomes_enqueue _ _ (by decide))
  -- a failure does not get out of the rebuilding but comes back with the count
  apply hclear.attempt.bind
  rintro (f | _)
  · exact Outcomes.pure fun d hd => Amid.broken hd _
  apply (outcomes_addElements es 0).bind
  rintro ⟨count, _ | f⟩
  · dsimp only
    rw [Content.draft_draft]
    apply (outcomes_commit "build_index").attempt.bind
    rintro (f | _)
    · exact Outcomes.pure fun d hd => ⟨_, List.prefix_rfl, hd⟩
    · exact Outcomes.pure fun d hd => hd
  · exact Outcomes.pure fun d hd => hd.behind

/-- **The steps of a write.** They are all carried out and committed with what waited before, or they
are broken off and nothing is committed. -/
theorem outcomes_steps {w : Write} (hw : w.isPresent = true) :
    Outcomes (Amid shelf base place w₀ k) w.steps
      (fun _ => Amid (shelf.keep place (k.draft w.changes).commit.committed) base place w₀
        (k.draft w.changes).commit)
      fun _ => Broken shelf base place w₀ k w.changes := by
  rcases w with es | (_ | e) | id
  · refine Outcomes.bind_get fun d hd => ?_
    have hemit : Outcomes (· = d) (emit .info "search_index_build_started" d.pathContext)
        (fun _ => Amid shelf base place w₀ k)
        fun _ => Broken shelf base place w₀ k (Write.build es).changes := by
      apply Outcomes.modify
      rintro _ rfl
      exact hd
    apply hemit.bind
    intro _
    apply ((outcomes_rebuild es).mono (fun _ _ => id) fun _ _ => False.elim).bind
    rintro ⟨count, _ | f⟩
    · exact Outcomes.pure fun _ h => h
    · exact Outcomes.throw fun _ h => h
  · exact absurd hw nofun
  · -- the removal waits before the document, so the new document stays
    have hdelete : Outcomes (Amid shelf base place w₀ k) (onWriter "update" (Engine.deleteId e.id))
        (fun _ => Amid shelf base place w₀ (k.draft [.remove e.id])) _ :=
      outcomes_onWriter (Engine.outcomes_enqueue _ _ (by decide))
    apply (hdelete.mono (fun _ _ => id) fun _ d hd => Amid.broken hd _).bind
    intro _
    apply ((outcomes_addElement "update" e).mono (fun _ _ => id) fun _ d hd => ?_).bind
    · intro _
      rw [Content.draft_draft]
      exact (outcomes_commit "update").mono (fun _ _ => id) fun _ d hd => ⟨_, List.prefix_rfl, hd⟩
    · exact ⟨_, List.prefix_append _ _, hd⟩
  · have hdelete : Outcomes (Amid shelf base place w₀ k) (onWriter "delete" (Engine.deleteValue id))
        (fun _ => Amid shelf base place w₀ (k.draft (Write.delete id).changes)) _ :=
      outcomes_onWriter (Engine.outcomes_deleteValue id)
    apply (hdelete.mono (fun _ _ h => h) fun _ d hd => Amid.broken hd _).bind
    intro _
    exact (outcomes_commit "delete").mono (fun _ _ h => h) fun _ d hd => ⟨_, List.prefix_rfl, hd⟩

/-! ## The end of a write

A write ends in one of a few ways, told by the script it met: refused and taken back, refused and
not taken back, committed and shown, committed and not shown. -/

/-- The desk is left open. Of the session that it had only readers, content and script may be others
than they were. -/
def Left (d : Desk) (s : Session) (shelf : Shelf) (readers : Readers) (k : Content) : Desk → Prop :=
  Open shelf d.index s.place (Watched.Left readers s.engine.source.consumed k)

/-- **How a write ends** that is made in a session. -/
inductive Ending (w : Write) (d : Desk) (s : Session) : Except Failure Answer × Desk → Prop
  /-- A step failed, and nothing waits any more. -/
  | undone {e : Failure} {t : Desk} (hsteps : (w.steps.outcome d).1 = .error e)
      (hrollback : s.engine.source.refusal? .rollback = none)
      (hleft : Left d s d.shelf s.engine.readers s.engine.source.content.rollback t) :
      Ending w d s (.error (.catalog (.writeFailed w.operation e.text)), t)
  /-- A step failed, and what it left waits on. -/
  | stuck {e : Failure} {f : Fault} {cs : List Change} {t : Desk}
      (hsteps : (w.steps.outcome d).1 = .error e)
      (hrollback : s.engine.source.refusal? .rollback = some f) (hf : f.isFileOrValue = true)
      (hcs : cs <+: w.changes)
      (hleft : Left d s d.shelf s.engine.readers (s.engine.source.content.draft cs) t) :
      Ending w d s (.error (.catalog (.writeFailed w.operation e.text)), t)
  /-- A step failed, and what gets out is the fault of the rollback. -/
  | escaped {e : Failure} {f : Fault} {cs : List Change} {t : Desk}
      (hsteps : (w.steps.outcome d).1 = .error e)
      (hrollback : s.engine.source.refusal? .rollback = some f) (hf : f.isFileOrValue = false)
      (hcs : cs <+: w.changes)
      (hleft : Left d s d.shelf s.engine.readers (s.engine.source.content.draft cs) t) :
      Ending w d s (.error (.fault f), t)
  /-- The write was committed, and readers see it. -/
  | done {a : Answer} {c : Collection} {now : Binary64} {t : Desk}
      (hsteps : (w.steps.outcome d).1 = .ok ())
      (hreload : s.engine.source.refusal? .reload = none)
      (hc : c = s.engine.source.committed.changeAll (s.engine.source.pending ++ w.changes))
      (hleft : Left d s (d.shelf.keep s.place c) { s.engine.readers with lastReload := now }
        (.settled c) t) :
      Ending w d s (.ok a, t)
  /-- The write was committed, and what gets out is the fault of the reload. -/
  | unseen {f : Fault} {c : Collection} {t : Desk} (hsteps : (w.steps.outcome d).1 = .ok ())
      (hreload : s.engine.source.refusal? .reload = some f)
      (hc : c = s.engine.source.committed.changeAll (s.engine.source.pending ++ w.changes))
      (hleft : Left d s (d.shelf.keep s.place c) s.engine.readers
        ⟨c, s.engine.source.visible, []⟩ t) :
      Ending w d s (.error (.fault f), t)

section Ending

variable {w : Write} {s : Session} {e : Failure} {event : String} {context : Json.Fields}

/-- A write starts from what the session has. -/
theorem amid_of_session (hs : d.index.session = some s) :
    Amid d.shelf d.index s.place s.engine s.engine.source.content d := by
  refine ⟨rfl, s.engine, ?_, Watched.Along.refl _⟩
  rw [← hs]

/-- A report is the end of whatever would follow it. -/
theorem outcome_writeFailed_bind {β : Type} {operation : String} (f : α → IndexAct β) (d : Desk) :
    ((writeFailed operation event context e : IndexAct α) >>= f).outcome d =
      (writeFailed operation event context e : IndexAct β).outcome d := by
  unfold writeFailed
  simp only [outcome_bind, emit, outcome_modify, outcome_refuse]
  rcases (rollback operation).outcome _ with ⟨_ | _, _⟩
  · rfl
  · rfl

/-- A rollback that is accepted leaves nothing waiting. One that is refused changes nothing, and
whether the refusal gets out depends on its sort. -/
theorem outcomes_rollback (operation : String) :
    Outcomes (Amid shelf base place w₀ k) (rollback operation)
      (fun _ d =>
        (w₀.source.refusal? .rollback = none ∧
          Open shelf base place (Watched.Left w₀.readers w₀.source.consumed k.rollback) d) ∨
        ∃ f, w₀.source.refusal? .rollback = some f ∧ f.isFileOrValue = true ∧
          Open shelf base place (Watched.Left w₀.readers w₀.source.consumed k) d)
      fun e d => ∃ f, w₀.source.refusal? .rollback = some f ∧ f.isFileOrValue = false ∧
        e = .fault f ∧ Open shelf base place (Watched.Left w₀.readers w₀.source.consumed k) d := by
  have hcall : Outcomes (Amid shelf base place w₀ k) (onWriter operation Engine.rollback) _ _ :=
    outcomes_onEngine Watched.outcomes_rollback
  -- the engine answers with faults only, and whether one gets out depends on its sort
  apply hcall.attempt.bind
  rintro ((e | f) | _)
  · apply Outcomes.throw
    rintro d ⟨-, w, -, f, -, hf, -⟩
    exact absurd hf nofun
  · dsimp only
    rintro d ⟨hshelf, w, hw, f', hrefused, hf, hleft⟩
    obtain rfl : f = f' := Failure.fault.inj hf
    rcases hsort : f.isFileOrValue
    · exact ⟨f, hrefused, hsort, rfl, hshelf, w, hw, hleft⟩
    · exact .inr ⟨f, hrefused, hsort, hshelf, w, hw, hleft⟩
  · apply Outcomes.pure
    rintro d ⟨hshelf, w, hw, hrefused, hleft⟩
    exact .inl ⟨hrefused, hshelf, w, hw, hleft⟩

/-- The refresh behind a commit shows it, or is refused and gets out. -/
theorem outcomes_requestRefresh (hrest : w₀.readers.AtRest) :
    Outcomes (Amid shelf base place w₀ k) requestRefresh
      (fun _ d => ∃ now, w₀.source.refusal? .reload = none ∧ Open shelf base place
        (Watched.Left { w₀.readers with lastReload := now } w₀.source.consumed k.reload) d)
      fun e d => ∃ f, w₀.source.refusal? .reload = some f ∧ e = .fault f ∧
        Open shelf base place (Watched.Left w₀.readers w₀.source.consumed k) d := by
  refine Outcomes.bind_get fun d hd => ?_
  have hreload : Outcomes (Amid shelf base place w₀ k) (onEngine (.catalog (.closed "refresh"))
      (Watched.maybeRefresh true d.now)) _ _ :=
    outcomes_onEngine (Watched.outcomes_maybeRefresh_force hrest)
  rintro _ rfl
  -- what the reload tells is dropped, and its fault is not
  refine (hreload.discard.mono ?_ ?_) _ hd
  · rintro _ t ⟨hshelf, w, hw, haccepted, hleft⟩
    exact ⟨_, haccepted, hshelf, w, hw, hleft⟩
  · rintro _ t ⟨hshelf, w, hw, f, hrefused, rfl, hleft⟩
    exact ⟨f, hrefused, rfl, hshelf, w, hw, hleft⟩

/-- A write whose steps fail is undone and reported, as far as the engine lets it be undone. -/
theorem ending_of_error (hw : w.isPresent = true) (hs : d.index.session = some s)
    (hsteps : w.steps.outcome d = (.error e, t))
    (haction : ∃ event context, w.action.outcome d =
      (writeFailed w.operation event context e : IndexAct Answer).outcome t) :
    Ending w d s (w.action.outcome d) := by
  obtain ⟨event, context, haction⟩ := haction
  obtain ⟨cs, hcs, ht⟩ := (outcomes_steps hw).error (amid_of_session hs) hsteps
  have herror : (w.steps.outcome d).1 = .error e := by rw [hsteps]
  have hoperation : Outcomes
      (Amid d.shelf d.index s.place s.engine (s.engine.source.content.draft cs))
      (rollback w.operation) _ _ := outcomes_rollback w.operation
  -- the event that comes first is all that is between the steps and the rollback
  have hrollback := hoperation
    { t with log := t.log ++ [⟨.error, event, context ++ [("error", .text e.text)]⟩] } ht
  rw [haction, writeFailed, outcome_bind, emit, outcome_modify]
  dsimp only
  rw [outcome_bind]
  rcases hr : (rollback w.operation).outcome _ with ⟨e' | _, u⟩ <;> rw [hr] at hrollback
  · obtain ⟨f, hrefused, hf, rfl, hu⟩ := hrollback
    exact .escaped herror hrefused hf hcs hu
  · rcases hrollback with ⟨hrefused, hu⟩ | ⟨f, hrefused, hf, hu⟩
    · exact .undone herror hrefused hu
    · exact .stuck herror hrefused hf hcs hu

/-- A write whose steps succeed stands, and whether it returns is up to the reload. -/
theorem ending_of_ok (hw : w.isPresent = true)
    (hs : d.index.session = some s) (hrest : s.engine.readers.AtRest)
    (hsteps : w.steps.outcome d = (.ok (), t))
    (haction : ∃ level event context answer, w.action.outcome d = (do
      requestRefresh
      emit level event context
      return answer : IndexAct Answer).outcome t) :
    Ending w d s (w.action.outcome d) := by
  obtain ⟨level, event, context, answer, haction⟩ := haction
  have ht := (outcomes_steps hw).ok (amid_of_session hs) hsteps
  have hok : (w.steps.outcome d).1 = .ok () := by rw [hsteps]
  have hrefresh := outcomes_requestRefresh hrest t ht
  rw [haction, outcome_bind]
  -- the steps are done, so what is left to fail is the refresh behind the commit
  rcases hr : requestRefresh.outcome t with ⟨f | _, u⟩ <;> rw [hr] at hrefresh
  · obtain ⟨f, hrefused, rfl, hu⟩ := hrefresh
    exact .unseen hok hrefused rfl hu
  · obtain ⟨now, haccepted, hu⟩ := hrefresh
    exact .done hok haccepted rfl hu

/-- A build ends in one of these ways. -/
theorem ending_build (es : Feed) (hs : d.index.session = some s)
    (hrest : s.engine.readers.AtRest) :
    Ending (.build es) d s ((Write.build es).action.outcome d) := by
  obtain ⟨d₁, hd₁, hamid⟩ : ∃ d₁,
      (emit .info "search_index_build_started" d.pathContext).outcome d = (.ok (), d₁) ∧
        Amid d.shelf d.index s.place s.engine s.engine.source.content d₁ :=
    ⟨_, rfl, amid_of_session hs⟩
  have hopen := outcome_requireWriter (Index.isOpen_of_session hs) "build index"
  -- the steps and the action begin with the same event, and then both rebuild
  rcases hr : (rebuild es).outcome d₁ with ⟨f | ⟨count, _ | f⟩, t⟩
  · exact ((outcomes_rebuild es).error hamid hr).elim
  · have hsteps : (Write.build es).steps.outcome d = (.ok (), t) := by
      rw [Write.steps, outcome_bind, outcome_get]
      dsimp only
      rw [outcome_bind_of_ok hd₁, outcome_bind_of_ok hr]
      rfl
    refine ending_of_ok rfl hs hrest hsteps
      ⟨.info, "search_index_built", [("count", .int count)], .count count, ?_⟩
    rw [Write.action, outcome_bind, buildIndex, outcome_bind_of_ok hopen, outcome_bind, outcome_get]
    dsimp only
    rw [outcome_bind_of_ok hd₁, outcome_bind_of_ok hr]
    simp only [outcome_bind, emit, outcome_modify, outcome_pure]
    rcases requestRefresh.outcome t with ⟨_ | _, _⟩ <;> rfl
  · have hsteps : (Write.build es).steps.outcome d = (.error f, t) := by
      rw [Write.steps, outcome_bind, outcome_get]
      dsimp only
      rw [outcome_bind_of_ok hd₁, outcome_bind_of_ok hr]
      rfl
    refine ending_of_error rfl hs hsteps ⟨"search_index_build_failed", [("indexed", .int count)], ?_⟩
    rw [← outcome_writeFailed_bind, Write.action, outcome_bind, buildIndex,
      outcome_bind_of_ok hopen, outcome_bind, outcome_get]
    dsimp only
    rw [outcome_bind_of_ok hd₁, outcome_bind_of_ok hr, outcome_bind]
    rfl

/-- So does an update with an element. -/
theorem ending_update (e : Element) (hs : d.index.session = some s)
    (hrest : s.engine.readers.AtRest) :
    Ending (.update (some e)) d s ((Write.update (some e)).action.outcome d) := by
  have hopen := outcome_requireWriter (Index.isOpen_of_session hs) "update element"
  -- the steps fail, and then they are rolled back and logged; or they succeed, and the refresh is
  -- left
  rcases hr : (Write.update (some e)).steps.outcome d with ⟨f | _, t⟩
  · refine ending_of_error rfl hs hr ⟨"search_index_update_failed",
      [("element_id", .text e.id), ("full_name", .text e.fullName)], ?_⟩
    rw [Write.steps] at hr
    rw [← outcome_writeFailed_bind, Write.action, outcome_bind, updateElement,
      outcome_bind_of_ok hopen, outcome_bind, outcome_attempt, hr, outcome_bind]
    rfl
  · refine ending_of_ok rfl hs hrest hr ⟨.debug, "search_index_element_updated",
      [("element_id", .text e.id)], .done, ?_⟩
    rw [Write.steps] at hr
    rw [Write.action, outcome_bind, updateElement,
      outcome_bind_of_ok hopen, outcome_bind, outcome_attempt, hr]
    simp only [outcome_bind, emit, outcome_modify, outcome_pure]
    rcases requestRefresh.outcome t with ⟨_ | _, _⟩ <;> rfl

/-- So does a removal of what can be named. -/
theorem ending_delete {id : Json.Value} (hid : id.isNothing = false)
    (hs : d.index.session = some s) (hrest : s.engine.readers.AtRest) :
    Ending (.delete id) d s ((Write.delete id).action.outcome d) := by
  have hopen := outcome_requireWriter (Index.isOpen_of_session hs) "delete element"
  have hpresent : (Write.delete id).isPresent = true := by
    rw [Write.isPresent, hid]
    rfl
  -- as in an update, but the id is asked for before the writer
  rcases hr : (Write.delete id).steps.outcome d with ⟨f | _, t⟩
  · refine ending_of_error hpresent hs hr ⟨"search_index_delete_failed", [("element_id", id)], ?_⟩
    rw [Write.steps] at hr
    rw [← outcome_writeFailed_bind, Write.action, outcome_bind, deleteElement, hid,
      if_neg Bool.false_ne_true, outcome_bind_of_ok hopen, outcome_bind, outcome_attempt, hr,
      outcome_bind]
    rfl
  · refine ending_of_ok hpresent hs hrest hr ⟨.debug, "search_index_element_deleted",
      [("element_id", id)], .done, ?_⟩
    rw [Write.steps] at hr
    rw [Write.action, outcome_bind, deleteElement, hid, if_neg Bool.false_ne_true,
      outcome_bind_of_ok hopen, outcome_bind, outcome_attempt, hr]
    simp only [outcome_bind, emit, outcome_modify, outcome_pure]
    rcases requestRefresh.outcome t with ⟨_ | _, _⟩ <;> rfl

/-- **Every write ends in one of five ways** that is made on an open handle with readers at rest. -/
theorem ending_of_session (hw : w.isPresent = true) (hs : d.index.session = some s)
    (hrest : s.engine.readers.AtRest) : Ending w d s (w.action.outcome d) := by
  rcases w with es | (_ | e) | id
  · exact ending_build es hs hrest
  · exact absurd hw nofun
  · exact ending_update e hs hrest
  · rw [Write.isPresent, Bool.not_eq_true'] at hw
    exact ending_delete hw hs hrest

/-- Where the engine accepts the rollback, a write that fails is undone. -/
theorem Ending.of_accepted {r : Except Failure Answer} (h : Ending w d s (r, t))
    (hfails : (w.steps.outcome d).1 = .error e)
    (haccepted : s.engine.source.refusal? .rollback = none) :
    r = .error (.catalog (.writeFailed w.operation e.text)) ∧
      Left d s d.shelf s.engine.readers s.engine.source.content.rollback t := by
  cases h with
  | undone hsteps _ hleft =>
    obtain rfl := Except.error.inj (hfails.symm.trans hsteps)
    exact ⟨rfl, hleft⟩
  -- the other endings need another answer of the engine, or steps that succeed
  | stuck _ hrefused _ _ _ => exact absurd (haccepted.symm.trans hrefused) nofun
  | escaped _ hrefused _ _ _ => exact absurd (haccepted.symm.trans hrefused) nofun
  | done hsteps _ _ _ => exact absurd (hfails.symm.trans hsteps) nofun
  | unseen hsteps _ _ _ => exact absurd (hfails.symm.trans hsteps) nofun

/-- On a willing engine a write is undone or done. -/
theorem Ending.of_willing {r : Except Failure Answer} (h : Ending w d s (r, t))
    (hwilling : s.engine.source.Willing) :
    (∃ e : Failure, r = .error (.catalog (.writeFailed w.operation e.text)) ∧
      Left d s d.shelf s.engine.readers s.engine.source.content.rollback t) ∨
    ∃ a c now, r = .ok a ∧
      c = s.engine.source.committed.changeAll (s.engine.source.pending ++ w.changes) ∧
      Left d s (d.shelf.keep s.place c) { s.engine.readers with lastReload := now } (.settled c) t := by
  -- an engine that refuses nothing leaves two of the five endings
  cases h with
  | undone _ _ hleft => exact .inl ⟨_, rfl, hleft⟩
  | stuck _ hrefused _ _ _ => exact absurd ((hwilling.refusal? _).symm.trans hrefused) nofun
  | escaped _ hrefused _ _ _ => exact absurd ((hwilling.refusal? _).symm.trans hrefused) nofun
  | done _ _ hc hleft => exact .inr ⟨_, _, _, rfl, hc, hleft⟩
  | unseen _ hrefused _ _ => exact absurd ((hwilling.refusal? _).symm.trans hrefused) nofun

/-- A write without its argument, or on a handle that is closed, is refused, and nothing is changed.
-/
theorem outcome_action_refused (h : w.isPresent = false ∨ d.index.session = none) :
    ∃ r, w.action.outcome d = (.error (.catalog r), d) := by
  -- a write that is not there is refused by its check; one that is there is refused for want of a
  -- writer
  rcases w with es | (_ | e) | id
  · have hclosed := h.resolve_left nofun
    refine ⟨.closed "build index", ?_⟩
    rw [Write.action, outcome_bind, buildIndex,
      outcome_bind_of_error (outcome_requireWriter_closed hclosed _)]
  · exact ⟨_, rfl⟩
  · have hclosed := h.resolve_left nofun
    refine ⟨.closed "update element", ?_⟩
    rw [Write.action, outcome_bind, updateElement,
      outcome_bind_of_error (outcome_requireWriter_closed hclosed _)]
  · rw [Write.action, outcome_bind, deleteElement]
    by_cases hid : id.isNothing = true
    · rw [if_pos hid]
      exact ⟨_, rfl⟩
    · have hclosed := h.resolve_left (by simpa [Write.isPresent] using hid)
      refine ⟨.closed "delete element", ?_⟩
      rw [if_neg hid, outcome_bind_of_error (outcome_requireWriter_closed hclosed _)]

end Ending

end Desk

end CodeCatalog.Search
