/-
Everything that may happen to the handles of a process, and what comes back from it.

A process has any number of handles, each on a path of its own. They are made, opened and closed, in
blocks or without them, written and read; engines are told where to fail, openings are struck by
faults of any sort at any of their steps, and others change the files and hold folders meanwhile. A
`Deed` is one of these, a `Turn` a deed on one of the handles at some time. No deed looks at the log,
so runs of processes that differ in nothing else come to the same (`Process.performAll_after`).

What waits in an open handle is what its failed writes left there. As long as the engine refused none
of its rollbacks, nothing waits (`Process.poised_performAll`).
-/
import CodeCatalog.Proofs.Search.Failing
import CodeCatalog.Proofs.Search.Refinement
import CodeCatalog.Proofs.Search.Unlogged

set_option autoImplicit false

namespace CodeCatalog.Search

open Act Desk Log

/-! ## Deeds

A process is a shelf with several handles, and a deed is whatever can be done with one of them.
Handles take turns, each at its own time. -/

/-- What may be done with a handle, or happen to it. -/
inductive Deed
  /-- A new handle is made, in place of one that is not open. -/
  | make (path : Path) (heapMegabytes threads : Int) (interval : Binary64)
  /-- The handle is opened, or a block is entered with it. -/
  | openIndex (faults : OpenStep → Option Fault)
  /-- The handle is closed, or its block is left at the end. -/
  | closeIndex
  /-- The block of the handle is left by a failure. -/
  | leave (raised : Failure)
  | write (w : Write)
  | refresh
  | read (r : Read)
  | count
  /-- The engine is told where to fail. -/
  | tell (script : Script)
  /-- Others change what all handles share, but for the claims. -/
  | world (shelf : Shelf)

namespace Deed

def action : Deed → IndexAct Answer
  | make path heapMegabytes threads interval => do
    modify fun d =>
      if d.index.isOpen then d
      else { d with index := Index.new d.shelf.folder path heapMegabytes threads interval }
    return .done
  | openIndex faults => do
    openStruck faults
    return .done
  | closeIndex => do
    Desk.closeIndex
    return .done
  | leave raised => do
    Desk.closeIndex
    throw raised
  | write w => w.action
  | refresh => do
    Desk.refresh
    return .done
  | read r => return .found (← Desk.read r)
  | count => return .count (← docCount)
  | tell script => do
    modifyEngine fun e => { e with script := script }
    return .done
  | world shelf => do
    modifyShelf fun s => { shelf with claimed := s.claimed }
    return .done

/-- Whether a deed closes the handle. -/
def closes : Deed → Bool
  | closeIndex => true
  | leave _ => true
  | _ => false

end Deed

/-- A deed on one of the handles at some time. -/
structure Turn (ι : Type) where
  handle : ι
  now : Binary64
  deed : Deed

namespace Process

variable {ι : Type} [DecidableEq ι]

/-- A process in which nothing has been opened. -/
def start (shelf : Shelf) (handle : ι → Index) : Process ι where
  shelf := { shelf with claimed := [] }
  handle i := { handle i with session := none }

/-- What comes back from a turn, and the process after it. -/
def perform (p : Process ι) (t : Turn ι) : Except Failure Answer × Process ι :=
  let (r, d) := t.deed.action.outcome (p.desk t.handle t.now)
  (r, p.leave t.handle d)

/-- The process after turns. -/
def performAll (p : Process ι) (turns : List (Turn ι)) : Process ι :=
  turns.foldl (fun p t => (p.perform t).2) p

/-- What comes back from turns. -/
def answers (p : Process ι) : List (Turn ι) → List (Except Failure Answer)
  | [] => []
  | t :: turns => (p.perform t).1 :: (p.perform t).2.answers turns

theorem performAll_cons (p : Process ι) (t : Turn ι) (turns : List (Turn ι)) :
    p.performAll (t :: turns) = (p.perform t).2.performAll turns := rfl

/-- A turn of one handle leaves the others as they are. -/
theorem perform_handle_of_ne (p : Process ι) {t : Turn ι} {i : ι} (h : i ≠ t.handle) :
    (p.perform t).2.handle i = p.handle i :=
  leave_handle_of_ne h p _

theorem perform_handle_self (p : Process ι) (t : Turn ι) :
    (p.perform t).2.handle t.handle = (t.deed.action.outcome (p.desk t.handle t.now)).2.index :=
  leave_handle_self p _ _

/-! ## What the log had before

No deed looks at the log, so a process with a longer past goes the same way. Turns can be followed
with an empty log. -/

/-- The process with earlier events in the log. -/
def after (events : List Event) (p : Process ι) : Process ι :=
  { p with log := events ++ p.log }

end Process

/-- A fault that strikes does not look at the log. -/
theorem Desk.blind_strike (f : Option Fault) : Blind (strike f) := by
  rcases f with _ | f
  · exact Blind.pure _
  · exact Blind.ite (blind_giveUp _ _) (Blind.ite (blind_giveUp _ _) (Blind.fail f))

/-- An opening that is struck does not look at the log, like one that is not. -/
theorem Desk.blind_openStruck (faults : OpenStep → Option Fault) : Blind (openStruck faults) := by
  refine Blind.bind_get (fun _ _ => rfl) fun d => Blind.ite ?_ (Blind.pure _)
  refine blind_claim.bind fun _ => (blind_strike _).bind fun _ => ?_
  refine blind_openFolder.bind fun place => (blind_strike _).bind fun _ => ?_
  refine (blind_openCollection place).bind fun c => (blind_strike _).bind fun _ => ?_
  refine (blind_openWriter place).bind fun _ => Blind.bind_get (fun _ _ => rfl) fun d => ?_
  exact (blind_setSession _).bind fun _ => blind_emit _ _ _

/-- No write looks at the log. -/
theorem Write.blind_action (w : Write) : Blind w.action := by
  rcases w with es | e | id
  · exact (blind_buildIndex es).bind fun _ => Blind.pure _
  · exact (blind_updateElement e).bind fun _ => Blind.pure _
  · exact (blind_deleteElement id).bind fun _ => Blind.pure _

/-- **No deed looks at the log.** -/
theorem Deed.blind_action (deed : Deed) : Blind deed.action := by
  cases deed with
  | make path heap threads interval =>
    have hmake : Blind (modify fun d : Desk => if d.index.isOpen then d
        else { d with index := Index.new d.shelf.folder path heap threads interval }) := by
      apply Blind.modify
      intro events d
      -- whether the handle is open is not told by the log
      have hindex : (Desk.after events d).index = d.index := rfl
      rw [hindex]
      rcases d.index.isOpen
      · rfl
      · rfl
    exact hmake.bind fun _ => Blind.pure _
  | openIndex faults => exact (blind_openStruck faults).bind fun _ => Blind.pure _
  | closeIndex => exact blind_closeIndex.bind fun _ => Blind.pure _
  | leave raised => exact blind_closeIndex.bind fun _ => Blind.throw raised
  | write w => exact w.blind_action
  | refresh => exact blind_refresh.bind fun _ => Blind.pure _
  | read r => exact (blind_read r).bind fun _ => Blind.pure _
  | count => exact blind_docCount.bind fun _ => Blind.pure _
  | tell script => exact (blind_modifyEngine _).bind fun _ => Blind.pure _
  | world shelf => exact (blind_modifyShelf _).bind fun _ => Blind.pure _

namespace Process

variable {ι : Type} [DecidableEq ι]

/-- A turn goes the same way whatever the log had before. -/
theorem perform_after (events : List Event) (p : Process ι) (t : Turn ι) :
    (p.after events).perform t = ((p.perform t).1, (p.perform t).2.after events) := by
  have h := t.deed.blind_action events (p.desk t.handle t.now)
  unfold perform
  show (let (r, d) := t.deed.action.outcome (Desk.after events (p.desk t.handle t.now))
    (r, (p.after events).leave t.handle d)) = _
  rw [h]
  rfl

/-- What was logged before a run shows in its log, and nowhere else. -/
theorem performAll_after (events : List Event) (p : Process ι) (turns : List (Turn ι)) :
    (p.after events).performAll turns = (p.performAll turns).after events ∧
      (p.after events).answers turns = p.answers turns := by
  induction turns generalizing p with
  | nil => exact ⟨rfl, rfl⟩
  | cons t turns ih =>
    -- the induction is on the turns; what the log had before is carried along
    obtain ⟨hall, hanswers⟩ := ih (p.perform t).2
    refine ⟨?_, ?_⟩
    · rw [performAll_cons, performAll_cons, perform_after]
      exact hall
    · rw [answers, answers, perform_after]
      dsimp only
      rw [hanswers]

end Process

/-! ## What waits

A change can only be left waiting by a write that fails and whose rollback is refused. If that has
happened to no turn of a handle, nothing waits in its engine. -/

namespace Desk

variable {shelf : Shelf} {place : Place} {d : Desk}

/-- The readers of an open handle are at rest, and if it is `clean`, nothing waits in its engine. -/
def Poised (clean : Prop) (d : Desk) : Prop :=
  ∀ s, d.index.session = some s →
    s.engine.readers.AtRest ∧ (clean → s.engine.source.pending = [])

variable {clean clean' : Prop}

theorem poised_of_closed (h : d.index.session = none) : Poised clean d := by
  intro s hs
  rw [h] at hs
  exact absurd hs nofun

/-- A handle that is clean need not be known to be. -/
theorem Poised.mono (h : Poised clean d) (hclean : clean' → clean) : Poised clean' d := by
  intro s hs
  obtain ⟨hrest, hpending⟩ := h s hs
  exact ⟨hrest, fun hc => hpending (hclean hc)⟩

/-- An open handle is poised if its readers and its engine are. -/
theorem Open.poised {base : Index} {W : Watched Engine → Prop} (h : Open shelf base place W d)
    (hW : ∀ w, W w → w.readers.AtRest ∧ (clean → w.source.pending = [])) : Poised clean d := by
  intro s hs
  exact hW _ (h.of_session hs).2

/-- Reading brings no reader out of rest and lets nothing wait. -/
theorem steady_poised : Steady (Poised clean) := by
  refine steady_of_calm (fun _ _ h => h) fun d s hd hs => ?_
  refine ⟨fun w => w.readers.AtRest ∧ (clean → w.source.pending = []), ⟨fun _ h => h.1,
    fun _ _ h => h, fun _ _ h => ⟨⟨h.1.serving, h.1.unlocked⟩, h.2⟩⟩, hd s hs, ?_⟩
  intro w hw s' hs'
  obtain rfl : { s with engine := w } = s' := Option.some.inj hs'
  exact hw

/-- An opening starts a session with nothing waiting, or leaves the handle as it is. -/
theorem keeps_poised_openStruck (faults : OpenStep → Option Fault) :
    Keeps (Poised clean) (openStruck faults) := by
  intro d hd
  -- a session that is open is refused, and so is a path that is claimed; else the opening fails
  -- closed or gives a fresh session
  rcases hsession : d.index.session with _ | s
  · by_cases hclaimed : d.index.key ∈ d.shelf.claimed
    · rw [outcome_openStruck_claimed faults hsession hclaimed]
      exact hd
    · have h := outcomes_openStruck faults hsession hclaimed d ⟨rfl, rfl⟩
      rcases hr : (openStruck faults).outcome d with ⟨e | _, t⟩ <;> rw [hr] at h
      · apply poised_of_closed
        rw [h.1]
        exact hsession
      · obtain ⟨place, c, hindex, -⟩ := h
        intro s hs
        rw [hindex] at hs
        obtain rfl : fresh d.index place c = s := Option.some.inj hs
        exact ⟨⟨rfl, rfl⟩, fun _ => rfl⟩
  · rw [outcome_openStruck_open faults (Index.isOpen_of_session hsession)]
    exact hd

/-- Closing ends the session, whatever goes wrong with it. -/
theorem session_of_closeIndex (d : Desk) : (closeIndex.outcome d).2.index.session = none := by
  rcases hs : d.index.session with _ | s
  · rw [outcome_closeIndex_closed hs]
    exact hs
  · rw [(stands_closeIndex (amid_of_session hs)).2]

theorem keeps_poised_closeIndex : Keeps (Poised clean) closeIndex :=
  fun d _ => poised_of_closed (session_of_closeIndex d)

/-- A write leaves something waiting only if its rollback was refused. -/
theorem poised_write {w : Write} (hd : Poised clean d) (hrolled : w.isPresent = true →
      (∃ e, (w.steps.outcome d).1 = .error e) →
        ∀ s, d.index.session = some s → clean' → s.engine.source.refusal? .rollback = none)
    (hclean : clean' → clean) : Poised clean' (w.action.outcome d).2 := by
  by_cases hrefused : w.isPresent = false ∨ d.index.session = none
  · obtain ⟨r, hr⟩ := outcome_action_refused hrefused
    rw [hr]
    exact hd.mono hclean
  obtain ⟨hw, hopen⟩ := not_or.mp hrefused
  rw [Bool.not_eq_false] at hw
  obtain ⟨s, hs⟩ := Option.ne_none_iff_exists'.mp hopen
  obtain ⟨hrest, hpending⟩ := hd s hs
  have hending := ending_of_session hw hs hrest
  -- whichever way the write ended, its readers serve on without a lock
  have hpoised : ∀ {shelf readers k t}, Left d s shelf readers k t → readers.AtRest →
      (clean' → k.pending = []) → Poised clean' t := by
    intro shelf readers k t hleft hreaders hk
    refine hleft.poised fun w' hw' => ⟨?_, fun hc => ?_⟩
    · rw [hw'.readers]
      exact hreaders
    · have hcontent : w'.source.pending = k.pending := congrArg Content.pending hw'.content
      rw [hcontent]
      exact hk hc
  rcases hr : w.action.outcome d with ⟨r, t⟩
  rw [hr] at hending
  cases hending with
  | undone hsteps _ hleft =>
    exact hpoised hleft hrest fun _ => rfl
  | stuck hsteps hrollback _ _ hleft =>
    refine hpoised hleft hrest fun hc => ?_
    rw [hrolled hw ⟨_, hsteps⟩ s hs hc] at hrollback
    exact absurd hrollback nofun
  | escaped hsteps hrollback _ _ hleft =>
    refine hpoised hleft hrest fun hc => ?_
    rw [hrolled hw ⟨_, hsteps⟩ s hs hc] at hrollback
    exact absurd hrollback nofun
  | done _ _ _ hleft =>
    exact hpoised hleft ⟨hrest.serving, hrest.unlocked⟩ fun _ => rfl
  | unseen _ _ _ hleft =>
    exact hpoised hleft hrest fun _ => rfl

end Desk

/-- The deed is a write that fails, and the engine refuses to take it back. -/
def Deed.RollbackRefused (d : Desk) : Deed → Prop
  | write w => w.isPresent = true ∧ (∃ e, (w.steps.outcome d).1 = .error e) ∧
      ∃ s f, d.index.session = some s ∧ s.engine.source.refusal? .rollback = some f
  | _ => False

/-- **The step.** Nothing waits in a handle in which nothing waited, unless a rollback was refused.
-/
theorem Desk.poised_action {clean : Prop} {d : Desk} (deed : Deed) (hd : Poised clean d) :
    Poised (clean ∧ ¬ deed.RollbackRefused d) (deed.action.outcome d).2 := by
  have hsteady : Steady (Poised clean) := steady_poised
  -- all but the writes keep it, whatever comes of them
  have hkeeps : Keeps (Poised clean) deed.action →
      Poised (clean ∧ ¬ deed.RollbackRefused d) (deed.action.outcome d).2 :=
    fun h => (h d hd).mono And.left
  cases deed with
  | make path heap threads interval =>
    apply hkeeps
    refine (Keeps.modify fun d hd => ?_).bind fun _ => Keeps.pure _
    rcases d.index.isOpen
    · exact poised_of_closed rfl
    · exact hd
  | openIndex faults => exact hkeeps ((keeps_poised_openStruck faults).bind fun _ => Keeps.pure _)
  | closeIndex => exact hkeeps (keeps_poised_closeIndex.bind fun _ => Keeps.pure _)
  | leave raised => exact hkeeps (keeps_poised_closeIndex.bind fun _ => Keeps.throw raised)
  | write w =>
    refine poised_write hd (fun hw hsteps s hs hclean => ?_) And.left
    by_contra hrollback
    obtain ⟨f, hf⟩ := Option.ne_none_iff_exists'.mp hrollback
    exact hclean.2 ⟨hw, hsteps, s, f, hs, hf⟩
  | refresh => exact hkeeps (hsteady.refreshNow.bind fun _ => Keeps.pure _)
  | read r => exact hkeeps ((hsteady.read r).bind fun _ => Keeps.pure _)
  | count => exact hkeeps (hsteady.docCount.bind fun _ => Keeps.pure _)
  | tell script =>
    apply hkeeps
    refine (Keeps.modify fun d hd s' hs' => ?_).bind fun _ => Keeps.pure _
    obtain ⟨s, hs, rfl⟩ := Option.map_eq_some_iff.mp hs'
    exact hd s hs
  | world shelf => exact hkeeps fun _ hd => hd

namespace Process

variable {ι : Type} [DecidableEq ι] {p : Process ι} {i : ι} {clean : Prop}

/-- The readers of an open handle are at rest, and if it is `clean`, nothing waits in its engine. -/
def Poised (p : Process ι) (clean : Prop) (i : ι) : Prop :=
  ∀ s, (p.handle i).session = some s →
    s.engine.readers.AtRest ∧ (clean → s.engine.source.pending = [])

/-- Somewhere in the turns the engine of a handle refuses to take a failed write back. -/
def RollbackRefused (p : Process ι) (i : ι) : List (Turn ι) → Prop
  | [] => False
  | t :: turns => (t.handle = i ∧ t.deed.RollbackRefused (p.desk i t.now)) ∨
      (p.perform t).2.RollbackRefused i turns

/-- A refusal in two rows of turns is one in the first, or one in the second from where the first
ends. -/
theorem rollbackRefused_append (xs ys : List (Turn ι)) : p.RollbackRefused i (xs ++ ys) ↔
    p.RollbackRefused i xs ∨ (p.performAll xs).RollbackRefused i ys := by
  induction xs generalizing p with
  | nil => exact ⟨.inr, fun h => h.resolve_left id⟩
  | cons t xs ih =>
    show _ ∨ (p.perform t).2.RollbackRefused i (xs ++ ys) ↔ _
    rw [ih, ← or_assoc]
    rfl

/-- After a turn a handle is as clean as before, unless the turn was its own and the rollback was
refused. -/
theorem poised_perform (hp : p.Poised clean i) (t : Turn ι) :
    (p.perform t).2.Poised (clean ∧ ¬ (t.handle = i ∧ t.deed.RollbackRefused (p.desk i t.now))) i := by
  by_cases hi : i = t.handle
  · subst hi
    intro s hs
    rw [perform_handle_self] at hs
    obtain ⟨hrest, hpending⟩ := Desk.poised_action (d := p.desk t.handle t.now) t.deed hp s hs
    exact ⟨hrest, fun hc => hpending ⟨hc.1, fun h => hc.2 ⟨rfl, h⟩⟩⟩
  · intro s hs
    rw [perform_handle_of_ne p hi] at hs
    obtain ⟨hrest, hpending⟩ := hp s hs
    exact ⟨hrest, fun hc => hpending hc.1⟩

/-- **The run.** Since a handle was closed last, nothing has come to wait in it that no refused
rollback has left there. -/
theorem poised_performAll (hp : p.Poised clean i) (turns : List (Turn ι)) :
    (p.performAll turns).Poised (clean ∧ ¬ p.RollbackRefused i turns) i := by
  -- the switch collects the refusals on the way, so it is generalized with the process
  induction turns generalizing p clean with
  | nil =>
    intro s hs
    obtain ⟨hrest, hpending⟩ := hp s hs
    exact ⟨hrest, fun hc => hpending hc.1⟩
  | cons t turns ih =>
    intro s hs
    obtain ⟨hrest, hpending⟩ := ih (poised_perform hp t) s hs
    refine ⟨hrest, fun hc => hpending ⟨⟨hc.1, fun h => hc.2 (.inl h)⟩, fun h => hc.2 (.inr h)⟩⟩

omit [DecidableEq ι] in
theorem poised_of_closed (h : (p.handle i).session = none) : p.Poised True i := by
  intro s hs
  rw [h] at hs
  exact absurd hs nofun

end Process

end CodeCatalog.Search
