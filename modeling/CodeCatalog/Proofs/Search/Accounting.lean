/-
Readers and those who use them keep the same accounts.

Those who use readers can tell by the replies they get which snapshots they hold, whether someone
else has the refresh lock, and when reloads have succeeded: that is their `Account`. Whatever the
source does when it is asked to reload or for a snapshot, and however it fails, the readers agree
with the account after each move (`Accounted`): they count the snapshots that are held, their lock
is held just by whom the account says, and they know the last reload. It is a step lemma, one case
per move, and the induction over the moves.

Closed readers ask the source for nothing any more, and only give back what is held (`Shut`).
-/
import CodeCatalog.Proofs.Search.Readers

set_option autoImplicit false

namespace CodeCatalog.Search.Readers

open Act

/-! ## Moves

A scene is a set of readers with everybody who uses them: those who reload, those who take snapshots
and give them back, and an outsider who takes the lock. The account is kept beside it, from the
replies alone. -/

/-- What comes back from readers. -/
inductive Reply (β : Type)
  | done
  | told (b : Bool)
  | snapshot (x : β)
  | events (es : List Log.Event)

/-- What is done with readers, or beside them. -/
inductive Move (σ β : Type)
  /-- A refresh that does not wait, with what the clock shows before it and after it. -/
  | maybeRefresh (force : Bool) (now ended : Binary64)
  /-- A refresh that waits, with what the clock shows after it. -/
  | refresh (ended : Binary64)
  | acquire
  /-- The snapshot at a position among those that are held is given back. -/
  | release (position : Nat)
  /-- Something is done with a snapshot in one go, and may fail. -/
  | block (look : β → Except Failure Unit)
  /-- Someone else takes the refresh lock, if it is free. -/
  | lock
  /-- Someone else gives it back. -/
  | unlock
  /-- The source changes: what it has, and where it will fail. -/
  | source (change : σ → σ)
  | close

namespace Move

variable {σ β : Type}

def action [Source σ β] : Move σ β → Act (Watched σ) (Reply β)
  | maybeRefresh force now ended => do
    return .told (← Watched.maybeRefreshUntil force now ended)
  | refresh ended => do
    Watched.refresh ended
    return .done
  | acquire => do return .snapshot (← Watched.acquire)
  | release _ => do
    Watched.release
    return .done
  | block look => do
    Watched.withSnapshot look
    return .done
  | lock => do return .told (← Watched.tryLock)
  | unlock => do
    Watched.unlock
    return .done
  | source change => do
    modify fun w => { w with source := change w.source }
    return .done
  | close => Act.ofOutcome fun w => (.ok (.events w.close.2), w.close.1)

end Move

/-- What those who use readers can tell from the replies. -/
structure Account (β : Type) where
  /-- The snapshots that were acquired and not given back. -/
  held : List β := []
  /-- Whether someone else has the refresh lock. -/
  locked : Bool := false
  /-- When the reloads ended that have succeeded, the last one first. -/
  reloads : List Binary64 := []

namespace Account

variable {σ β : Type}

/-- A lock that is held is waited for, and given back only by its holder. What is given back is
held. -/
def admits (a : Account β) : Move σ β → Bool
  | .refresh _ => !a.locked
  | .release i => i < a.held.length
  | .unlock => a.locked
  | _ => true

/-- The account after a move and its reply. -/
def after (a : Account β) : Move σ β → Except Failure (Reply β) → Account β
  | .maybeRefresh _ _ ended, .ok (.told true) => { a with reloads := ended :: a.reloads }
  | .refresh ended, .ok _ => { a with reloads := ended :: a.reloads }
  | .acquire, .ok (.snapshot x) => { a with held := a.held ++ [x] }
  | .release i, .ok _ => { a with held := a.held.eraseIdx i }
  | .lock, .ok (.told true) => { a with locked := true }
  | .unlock, .ok _ => { a with locked := false }
  | _, _ => a

end Account

/-- Readers at work, and the account of those who use them. -/
structure Scene (σ β : Type) where
  watched : Watched σ
  account : Account β := {}

namespace Scene

variable {σ β : Type} [Source σ β]

/-- The scene after a move. A move that is not possible is not made. -/
def next (s : Scene σ β) (m : Move σ β) : Scene σ β :=
  if s.account.admits m then
    ⟨(m.action.outcome s.watched).2, s.account.after m (m.action.outcome s.watched).1⟩
  else s

/-- The scene after moves. -/
def run (s : Scene σ β) (moves : List (Move σ β)) : Scene σ β :=
  moves.foldl next s

omit [Source σ β] in
/-- New readers of a source. -/
def start (interval : Binary64) (source : σ) : Scene σ β where
  watched := ⟨source, { interval }⟩

end Scene

/-! ## What a move does to readers

What a move does to the readers is a function of its reply. One lemma for each move; a move that
waits for the lock does not come to a reply and is left out. -/

section Effect

variable {σ β : Type} [Source σ β] {m : Move σ β} {w : Watched σ}

/-- The readers after a move and its reply. -/
def Move.effect : Move σ β → Except Failure (Reply β) → Readers → Readers
  | .maybeRefresh _ _ ended, .ok (.told true), r => { r with lastReload := ended }
  | .refresh ended, .ok _, r => { r with lastReload := ended }
  | .acquire, .ok (.snapshot _), r => { r with active := r.active + 1 }
  | .release _, .ok _, r => { r with active := r.active - 1 }
  | .lock, .ok (.told true), r => { r with lockHeld := true }
  | .unlock, .ok _, r => { r with lockHeld := false }
  | .close, .ok _, r => { r with closed := true }
  | _, _, r => r

/-- A move that does not find the lock free that it would wait for. -/
def Move.Waits (m : Move σ β) (r : Readers) : Prop :=
  ∃ ended, m = .refresh ended ∧ r.lockHeld = true

/-- Whether a refresh reloaded, was skipped or failed is told by its reply, and that is all that it
does. -/
theorem readers_maybeRefresh (force : Bool) (now ended : Binary64) (w : Watched σ) :
    let r := (Move.maybeRefresh force now ended : Move σ β).action.outcome w
    r.2.readers = (Move.maybeRefresh force now ended : Move σ β).effect r.1 w.readers := by
  rw [Move.action, outcome_bind, Watched.outcome_maybeRefreshUntil, Watched.outcome_reload_source]
  split_ifs
  · rcases Source.reload.outcome w.source with ⟨_ | _, _⟩
    · rfl
    · rfl
  · rfl

/-- A forced refresh that finds the lock free reloads, or is refused because the readers are closed.
-/
theorem readers_refresh (ended : Binary64) (h : w.readers.lockHeld = false) :
    let r := (Move.refresh ended : Move σ β).action.outcome w
    r.2.readers = (Move.refresh ended : Move σ β).effect r.1 w.readers := by
  rw [Move.action, outcome_bind]
  rcases hclosed : w.readers.closed
  · rw [Watched.outcome_refresh ⟨hclosed, h⟩, Watched.outcome_reload_source]
    rcases Source.reload.outcome w.source with ⟨_ | _, _⟩
    · rfl
    · rfl
  · rw [Watched.outcome_refresh_shut hclosed]
    rfl

/-- A snapshot counts if it was given. -/
theorem readers_acquire (w : Watched σ) :
    let r := (Move.acquire : Move σ β).action.outcome w
    r.2.readers = (Move.acquire : Move σ β).effect r.1 w.readers := by
  rw [Move.action, outcome_bind]
  rcases hclosed : w.readers.closed
  · rw [Watched.outcome_acquire hclosed]
    rcases Source.snapshot.outcome w.source with ⟨_ | _, _⟩
    · rfl
    · rfl
  · rw [Watched.outcome_acquire_shut hclosed]
    rfl

/-- What a reader does with its snapshot leaves the count as it was, whether it fails or not. -/
theorem readers_block (look : β → Except Failure Unit) (w : Watched σ) :
    ((Move.block look : Move σ β).action.outcome w).2.readers = w.readers := by
  rw [Move.action, outcome_bind]
  rcases hclosed : w.readers.closed
  · rw [Watched.outcome_withSnapshot_source hclosed]
    rcases Source.snapshot.outcome w.source with ⟨_ | x, _⟩
    · rfl
    · dsimp only
      rcases look x with _ | _
      · rfl
      · rfl
  · rw [Watched.outcome_withSnapshot_shut hclosed]

/-- Somebody outside has the lock afterwards, whether they have just got it or had it before. -/
theorem readers_lock (w : Watched σ) :
    let r := (Move.lock : Move σ β).action.outcome w
    r.2.readers = (Move.lock : Move σ β).effect r.1 w.readers := by
  have htry : (Move.lock : Move σ β).action.outcome w =
      (.ok (.told !w.readers.lockHeld), w.setLock true) := rfl
  rw [htry]
  rcases hlock : w.readers.lockHeld
  · rfl
  · -- a lock that is held stays held, which is no change
    exact congrArg Watched.readers (Watched.setLock_of_lockHeld hlock)

/-- Nobody has the lock afterwards. -/
theorem readers_unlock (w : Watched σ) :
    let r := (Move.unlock : Move σ β).action.outcome w
    r.2.readers = (Move.unlock : Move σ β).effect r.1 w.readers := by
  rw [Move.action, outcome_bind, Watched.unlock, outcome_bind, outcome_get]
  dsimp only
  rcases w.readers.lockHeld
  · rfl
  · rfl

/-- Readers are closed afterwards, however often. -/
theorem readers_close (w : Watched σ) :
    let r := (Move.close : Move σ β).action.outcome w
    r.2.readers = (Move.close : Move σ β).effect r.1 w.readers := by
  show w.close.1.readers = { w.readers with closed := true }
  rw [Watched.close]
  rcases hclosed : w.readers.closed
  · rfl
  · rw [if_pos rfl, ← hclosed]

/-- **What a move does to readers** can be told from its reply. -/
theorem readers_action (h : ¬ m.Waits w.readers) :
    (m.action.outcome w).2.readers = m.effect (m.action.outcome w).1 w.readers := by
  -- a refresh would wait for a lock that is held, and such a move is excluded
  rcases m with ⟨force, now, ended⟩ | ended | _ | i | look | _ | _ | change | _
  · exact readers_maybeRefresh force now ended w
  · refine readers_refresh ended ?_
    rcases hlock : w.readers.lockHeld
    · rfl
    · exact absurd ⟨ended, rfl, hlock⟩ h
  · exact readers_acquire w
  · rfl
  · exact readers_block look w
  · exact readers_lock w
  · exact readers_unlock w
  · rfl
  · exact readers_close w

end Effect

/-! ## Accounts

The readers agree with the account at the start, and each move changes both in the same way. So they
agree after any moves. -/

/-- **Readers agree with an account** on what is held, on the lock, and on the last reload. -/
structure Accounted {β : Type} (r : Readers) (a : Account β) : Prop where
  active : r.active = a.held.length
  lock : r.lockHeld = a.locked
  lastReload : r.lastReload = a.reloads.headD .zero

section Accounted

variable {σ β : Type} {m : Move σ β} {r : Readers} {a : Account β}

/-- What a move does to readers, it does to the account. -/
theorem Accounted.effect (h : Accounted r a) (hm : a.admits m) (reply : Except Failure (Reply β)) :
    Accounted (m.effect reply r) (a.after m reply) := by
  obtain ⟨hactive, hlock, hlast⟩ := h
  -- `effect` and `after` look at the same replies, so in all other cases neither side changes
  have hsame : Accounted r a := ⟨hactive, hlock, hlast⟩
  rcases m with ⟨force, now, ended⟩ | ended | _ | i | look | _ | _ | change | _
  · rcases reply with e | _ | (_ | _) | x | es
    case ok.told.true => exact ⟨hactive, hlock, rfl⟩
    all_goals exact hsame
  · rcases reply with e | _
    · exact hsame
    · exact ⟨hactive, hlock, rfl⟩
  · rcases reply with e | _ | b | x | es
    case ok.snapshot =>
      refine ⟨?_, hlock, hlast⟩
      show r.active + 1 = (a.held ++ [x]).length
      rw [hactive, List.length_append]
      rfl
    all_goals exact hsame
  · have hi : i < a.held.length := of_decide_eq_true hm
    rcases reply with e | _
    · exact hsame
    · refine ⟨?_, hlock, hlast⟩
      show r.active - 1 = (a.held.eraseIdx i).length
      rw [hactive, List.length_eraseIdx_of_lt hi]
      omega
  · exact hsame
  · rcases reply with e | _ | (_ | _) | x | es
    case ok.told.true => exact ⟨hactive, rfl, hlast⟩
    all_goals exact hsame
  · rcases reply with e | _
    · exact hsame
    · exact ⟨hactive, rfl, hlast⟩
  · exact hsame
  · rcases reply with e | _
    · exact hsame
    · exact ⟨hactive, hlock, hlast⟩

/-- A move that is admitted does not wait. -/
theorem Accounted.not_waits (h : Accounted r a) (hm : a.admits m) : ¬ m.Waits r := by
  rintro ⟨ended, rfl, hlock⟩
  rw [h.lock] at hlock
  rw [Account.admits, hlock] at hm
  exact absurd hm nofun

variable [Source σ β] {s : Scene σ β}

/-- **The step.** -/
theorem accounted_next (h : Accounted s.watched.readers s.account) (m : Move σ β) :
    Accounted (s.next m).watched.readers (s.next m).account := by
  rw [Scene.next]
  split_ifs with hm
  · dsimp only
    rw [readers_action (h.not_waits hm)]
    exact h.effect hm _
  · exact h

/-- **The run.** -/
theorem accounted_run (h : Accounted s.watched.readers s.account) (moves : List (Move σ β)) :
    Accounted (s.run moves).watched.readers (s.run moves).account := by
  -- on the moves, from the first one on, so the scene they start from is generalized
  induction moves generalizing s with
  | nil => exact h
  | cons m moves ih => exact ih (accounted_next h m)

omit [Source σ β] in
/-- At the start nothing is held and nothing was reloaded. -/
theorem accounted_start (interval : Binary64) (source : σ) :
    Accounted (Scene.start interval source : Scene σ β).watched.readers
      (Scene.start interval source : Scene σ β).account :=
  ⟨rfl, rfl, rfl⟩

end Accounted

/-! ## Closed readers

Nothing opens readers again. After a close there are no more reloads, and the snapshots that are
held become fewer. -/

section Closed

variable {σ β : Type} [Source σ β] {s : Scene σ β} {m : Move σ β} {w : Watched σ} {r : Readers}
  {a : Account β}

/-- **Readers that are shut** leave their source alone: they do not reload, they hand out no
snapshot, and closing them again changes and tells nothing. -/
structure Shut (β : Type) [Source σ β] (w : Watched σ) : Prop where
  skips : ∀ force now ended,
    (Watched.maybeRefreshUntil force now ended).outcome w = (.ok false, w)
  refuses : ∀ ended,
    (Watched.refresh ended).outcome w = (.error (.catalog (.closed "refresh")), w)
  denies : (Watched.acquire : Act (Watched σ) β).outcome w =
    (.error (.catalog (.closed "acquire a reader")), w)
  blocks : ∀ look : β → Except Failure Unit,
    (Watched.withSnapshot look).outcome w = (.error (.catalog (.closed "acquire a reader")), w)
  stays : w.close = (w, [])

/-- Readers that are closed stay so and serve nobody. -/
theorem shut_of_closed (h : w.readers.closed = true) : Shut β w where
  skips force now ended := by
    rw [Watched.outcome_maybeRefreshUntil, Readers.reloads, h]
    rfl
  refuses _ := Watched.outcome_refresh_shut h
  denies := Watched.outcome_acquire_shut h
  blocks look := Watched.outcome_withSnapshot_shut h look
  stays := by rw [Watched.close, if_pos h]

/-- Only closing closes, and nothing opens again. -/
theorem closed_next (h : Accounted s.watched.readers s.account) (m : Move σ β) :
    (s.next m).watched.readers.closed = true ↔ s.watched.readers.closed = true ∨ m = .close := by
  rw [Scene.next]
  split_ifs with hm
  · dsimp only
    rw [readers_action (h.not_waits hm)]
    rcases m with ⟨force, now, ended⟩ | ended | _ | i | look | _ | _ | change | _
    case close => exact iff_of_true rfl (.inr rfl)
    -- no other effect touches the flag, whatever the reply
    all_goals
      rw [or_iff_left nofun]
      rcases (Move.action _).outcome s.watched with ⟨_ | _ | (_ | _) | _ | _, _⟩ <;> exact Iff.rfl
  · rw [or_iff_left]
    rintro rfl
    exact hm rfl

/-- Readers are closed just if they were at the start or somebody has closed them since. -/
theorem closed_run (h : Accounted s.watched.readers s.account) (moves : List (Move σ β)) :
    (s.run moves).watched.readers.closed = true ↔
      s.watched.readers.closed = true ∨ .close ∈ moves := by
  induction moves generalizing s with
  | nil => simp [Scene.run]
  | cons m moves ih =>
    have hrun : s.run (m :: moves) = (s.next m).run moves := rfl
    rw [hrun, ih (accounted_next h m), closed_next h m, List.mem_cons, or_assoc]
    exact or_congr_right (or_congr_left eq_comm)

/-- After a move on closed readers no more reloads have succeeded, and no more snapshots are held.
-/
theorem account_next_of_closed (h : s.watched.readers.closed = true) (m : Move σ β) :
    (s.next m).account.reloads = s.account.reloads ∧
      (s.next m).account.held.Sublist s.account.held := by
  have hshut : Shut β s.watched := shut_of_closed h
  have hsame : s.account.reloads = s.account.reloads ∧ s.account.held.Sublist s.account.held :=
    ⟨rfl, List.Sublist.refl _⟩
  rw [Scene.next]
  split_ifs with hm
  · -- what would reload or take a snapshot is skipped, refused or denied
    rcases m with ⟨force, now, ended⟩ | ended | _ | i | look | _ | _ | change | _
    · rw [Move.action, outcome_bind, hshut.skips]
      exact hsame
    · rw [Move.action, outcome_bind, hshut.refuses]
      exact hsame
    · rw [Move.action, outcome_bind, hshut.denies]
      exact hsame
    · exact ⟨rfl, List.eraseIdx_sublist _ _⟩
    · exact hsame
    · rcases (Move.lock.action.outcome s.watched).1 with _ | _ | (_ | _) | _ | _ <;> exact hsame
    · rcases (Move.unlock.action.outcome s.watched).1 with _ | _ <;> exact hsame
    · exact hsame
    · exact hsame
  · exact hsame

/-- Once they are closed, readers reload no more and give snapshots back only. -/
theorem account_run_of_closed (haccounted : Accounted s.watched.readers s.account)
    (h : s.watched.readers.closed = true) (moves : List (Move σ β)) :
    (s.run moves).account.reloads = s.account.reloads ∧
      (s.run moves).account.held.Sublist s.account.held := by
  induction moves generalizing s with
  | nil => exact ⟨rfl, List.Sublist.refl _⟩
  | cons m moves ih =>
    obtain ⟨hreloads, hheld⟩ := account_next_of_closed h m
    obtain ⟨hreloads', hheld'⟩ := ih (accounted_next haccounted m)
      ((closed_next haccounted m).mpr (.inl h))
    exact ⟨hreloads'.trans hreloads, hheld'.trans hheld⟩

/-! ## Readers at any time

What can be asked of readers at any time is answered by the account: whether they are closed, how
many snapshots are held, and when they were reloaded last. -/

/-- What fails notes no time. -/
theorem lastReload_of_error {e : Failure} (haccounted : Accounted s.watched.readers s.account)
    (h : (m.action.outcome s.watched).1 = .error e) :
    (s.next m).watched.readers.lastReload = s.watched.readers.lastReload := by
  rw [Scene.next]
  split_ifs with hm
  · dsimp only
    rw [readers_action (haccounted.not_waits hm), h]
    rcases m with ⟨force, now, ended⟩ | ended | _ | i | look | _ | _ | change | _ <;> rfl
  · rfl

/-- **Readers at any time.** Whatever has been done with new readers, and however their source has
failed: they count just the snapshots that were acquired and not given back, which are never less
than none; their refresh lock is held just where someone else holds it, so that a refresh has given
it back however it has ended; what fails leaves the time of the last reload as it was; and each
snapshot that is held can be given back, which closing does not take away. Once they have been
closed they reload no more, and hand out no more snapshots, whatever is done, while those that are
held are held still, and closing again does nothing. -/
theorem accounts_kept (interval : Binary64) (source : σ) (moves : List (Move σ β)) :
    let s := (Scene.start interval source : Scene σ β).run moves
    let r := s.watched.readers
    (r.active = s.account.held.length ∧ 0 ≤ r.active) ∧
    r.lockHeld = s.account.locked ∧
    (∀ m e, (m.action.outcome s.watched).1 = .error e →
      (s.next m).watched.readers.lastReload = r.lastReload) ∧
    (∀ i < s.account.held.length, s.next (.release i) =
      ⟨s.watched.count (-1), { s.account with held := s.account.held.eraseIdx i }⟩) ∧
    (s.next .close).account = s.account ∧
    (r.closed = true ↔ .close ∈ moves) ∧
    (r.closed = true → ∀ more, let t := s.run more
      Shut β t.watched ∧ t.account.reloads = s.account.reloads ∧
        t.account.held.Sublist s.account.held) := by
  intro s r
  have haccounted : Accounted s.watched.readers s.account :=
    accounted_run (accounted_start interval source) moves
  -- all parts but the first two and the last are read off the account; those hold on every run from
  -- the start
  refine ⟨⟨haccounted.active, ?_⟩, haccounted.lock, fun m e => lastReload_of_error haccounted,
    fun i hi => ?_, rfl, ?_, fun hclosed more => ?_⟩
  · show 0 ≤ s.watched.readers.active
    rw [haccounted.active]
    exact Int.natCast_nonneg _
  · exact if_pos (decide_eq_true hi)
  · rw [show r.closed = true ↔ _ from closed_run (accounted_start interval source) moves]
    exact or_iff_right nofun
  · obtain ⟨hreloads, hheld⟩ := account_run_of_closed haccounted hclosed more
    have hstill := (closed_run haccounted more).mpr (.inl hclosed)
    exact ⟨shut_of_closed hstill, hreloads, hheld⟩

/-- A counter of reloads that fails when it is told to. -/
structure Counter where
  reloads : Nat := 0
  failing : Bool := false

instance : Source Counter Nat where
  reload := do
    if (← get).failing then Act.fail .nothingLeft
    modify fun c => { c with reloads := c.reloads + 1 }
  snapshot := return (← get).reloads

/-- Two snapshots are held while a reload fails, the readers are closed, and one is given back: one
is held still, and the readers are shut. -/
theorem accounts_kept_closed :
    let s := (Scene.start .zero {} : Scene Counter Nat).run
      [.acquire, .acquire, .source ({ · with failing := true }), .refresh .zero, .close, .release 0]
    s.account.held = [0] ∧ s.watched.readers.active = 1 ∧ s.watched.readers.lockHeld = false ∧
      Shut Nat s.watched := by
  intro s
  obtain ⟨⟨hactive, -⟩, hlock, -, -, -, hclosed, hshut⟩ := accounts_kept .zero ({} : Counter)
    [.acquire, .acquire, .source ({ · with failing := true }), .refresh .zero, .close, .release 0]
  have hheld : s.account.held = [0] := rfl
  have hfree : s.account.locked = false := rfl
  have hshut : Shut Nat s.watched := (hshut (hclosed.mpr (by simp)) []).1
  refine ⟨hheld, hactive.trans ?_, hlock.trans hfree, hshut⟩
  exact congrArg (fun xs : List Nat => (xs.length : Int)) hheld

end Closed

end CodeCatalog.Search.Readers
