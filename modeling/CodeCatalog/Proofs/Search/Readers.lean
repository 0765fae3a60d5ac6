/-
What the steps of readers do, over any source.

A reload is asked of the source, which may do anything and fail in any way; the readers only note
the time if it succeeds, and take and give back the refresh lock around it. A snapshot is asked of
the source as well, and the readers count it if there is one. Here each step is an equation in what
the source does.
-/
import CodeCatalog.Proofs.Act
import CodeCatalog.Search.Readers

set_option autoImplicit false

namespace CodeCatalog.Search

open Act

namespace Readers

/-- Readers between two calls: at work, and nobody holds the refresh lock. -/
structure AtRest (r : Readers) : Prop where
  serving : r.closed = false
  unlocked : r.lockHeld = false

end Readers

namespace Watched

variable {σ β : Type} [Source σ β] {w : Watched σ} {now ended : Binary64}

/-- A reload that fails notes nothing. -/
theorem outcome_reload_source (w : Watched σ) (ended : Binary64) :
    (reload ended).outcome w = match Source.reload.outcome w.source with
      | (.ok _, s) => (.ok (), ⟨s, { w.readers with lastReload := ended }⟩)
      | (.error e, s) => (.error e, ⟨s, w.readers⟩) := by
  rw [reload, outcome_bind, onSource, outcome_onPart]
  rcases Source.reload.outcome w.source with ⟨_ | _, _⟩
  · rfl
  · rfl

/-- A reload does not look at the lock. -/
theorem outcome_reload_setLock (held : Bool) (w : Watched σ) (ended : Binary64) :
    (reload ended).outcome (w.setLock held) =
      (((reload ended).outcome w).1, ((reload ended).outcome w).2.setLock held) := by
  rw [outcome_reload_source, outcome_reload_source, setLock]
  dsimp only
  rcases Source.reload.outcome w.source with ⟨_ | _, _⟩
  · rfl
  · rfl

/-- A reload leaves the lock as it is. -/
theorem lockHeld_reload (w : Watched σ) (ended : Binary64) :
    ((reload ended).outcome w).2.readers.lockHeld = w.readers.lockHeld := by
  rw [outcome_reload_source]
  rcases Source.reload.outcome w.source with ⟨_ | _, _⟩
  · rfl
  · rfl

theorem setLock_of_lockHeld {held : Bool} (h : w.readers.lockHeld = held) : w.setLock held = w := by
  rw [setLock, ← h]

/-- **A free lock is free again** after a reload that has taken it, whether that succeeds or not. -/
theorem outcome_reload_locked (h : w.readers.lockHeld = false) (ended : Binary64) :
    ((reload ended).ensuring (setLock false)).outcome (w.setLock true) =
      (reload ended).outcome w := by
  rw [outcome_ensuring, outcome_reload_setLock]
  exact Prod.ext rfl (setLock_of_lockHeld ((lockHeld_reload w ended).trans h))

/-- **A refresh that does not wait** reloads if the readers say so, and does nothing otherwise. -/
theorem outcome_maybeRefreshUntil (w : Watched σ) (force : Bool) (now ended : Binary64) :
    (maybeRefreshUntil force now ended).outcome w =
      if w.readers.reloads force now then
        (((reload ended).outcome w).1.map fun _ => true, ((reload ended).outcome w).2)
      else (.ok false, w) := by
  have hdue : (force || !w.readers.isRecent now) = !(!force && w.readers.isRecent now) := by
    rw [Bool.not_and, Bool.not_not]
  have htaken : tryLock.outcome w = (.ok !w.readers.lockHeld, w.setLock true) := rfl
  rw [maybeRefreshUntil, outcome_bind, outcome_get, Readers.reloads, hdue]
  dsimp only
  rcases w.readers.closed
  · rcases !force && w.readers.isRecent now
    · simp only [Bool.false_eq_true, if_false]
      rw [outcome_bind_of_ok htaken]
      rcases hlock : w.readers.lockHeld
      · -- the lock was free, and is free again when the reload has ended
        simp only [Bool.not_false, Bool.not_true, Bool.false_eq_true, Bool.and_true, if_false,
          if_true]
        rw [outcome_bind, outcome_reload_locked hlock]
        rcases (reload ended).outcome w with ⟨_ | _, _⟩
        · rfl
        · rfl
      · -- the lock was held, and is held still
        exact Prod.ext rfl (setLock_of_lockHeld hlock)
    · rfl
  · rfl

/-- A refresh is a reload, or nothing. -/
theorem outcome_maybeRefresh (w : Watched σ) (force : Bool) (now : Binary64) :
    (maybeRefresh force now).outcome w =
      if w.readers.reloads force now then
        (((reload now).outcome w).1.map fun _ => true, ((reload now).outcome w).2)
      else (.ok false, w) :=
  outcome_maybeRefreshUntil w force now now

/-- A forced refresh of readers at rest reloads. -/
theorem outcome_maybeRefresh_force (h : w.readers.AtRest) :
    (maybeRefresh true now).outcome w =
      (((reload now).outcome w).1.map fun _ => true, ((reload now).outcome w).2) := by
  rw [outcome_maybeRefresh, if_pos]
  simp [Readers.reloads, h.serving, h.unlocked]

/-- A refresh of readers at rest reloads. -/
theorem outcome_refresh (h : w.readers.AtRest) :
    (refresh ended).outcome w = (reload ended).outcome w := by
  rw [refresh, outcome_bind, outcome_get]
  dsimp only
  rw [h.serving, if_neg Bool.false_ne_true, outcome_bind_of_ok (outcome_modify _ w)]
  exact outcome_reload_locked h.unlocked ended

/-- A forced refresh of closed readers is refused. -/
theorem outcome_refresh_shut (h : w.readers.closed = true) :
    (refresh ended).outcome w = (.error (.catalog (.closed "refresh")), w) := by
  rw [refresh, outcome_bind, outcome_get]
  dsimp only
  rw [h, if_pos rfl]
  rfl

/-- A snapshot is counted if the source has one. -/
theorem outcome_acquire (h : w.readers.closed = false) :
    (acquire : Act (Watched σ) β).outcome w = match Source.snapshot.outcome w.source with
      | (.ok x, s) => (.ok x, (Watched.mk s w.readers).count 1)
      | (.error e, s) => (.error e, ⟨s, w.readers⟩) := by
  rw [acquire, outcome_bind, outcome_get]
  dsimp only
  rw [h, if_neg Bool.false_ne_true, outcome_bind, onSource, outcome_onPart]
  rcases Source.snapshot.outcome w.source with ⟨_ | _, _⟩
  · rfl
  · rfl

/-- Readers that are closed hand out no snapshot. -/
theorem outcome_acquire_shut (h : w.readers.closed = true) :
    (acquire : Act (Watched σ) β).outcome w =
      (.error (.catalog (.closed "acquire a reader")), w) := by
  rw [acquire, outcome_bind, outcome_get]
  dsimp only
  rw [h, if_pos rfl]
  rfl

/-- Snapshots are counted up and down. -/
@[simp] theorem count_count (m n : Int) (w : Watched σ) :
    (w.count m).count n = w.count (m + n) := by
  rw [count, count, count]
  simp only [Int.add_assoc]

@[simp] theorem count_zero (w : Watched σ) : w.count 0 = w := by
  rw [count, Int.add_zero]

/-- **A snapshot is given back**, whatever is done with it. -/
theorem outcome_withSnapshot_source {α : Type} (h : w.readers.closed = false)
    (look : β → Except Failure α) :
    (withSnapshot look).outcome w = match Source.snapshot.outcome w.source with
      | (.ok x, s) => (look x, ⟨s, w.readers⟩)
      | (.error e, s) => (.error e, ⟨s, w.readers⟩) := by
  rw [withSnapshot, outcome_bind, outcome_acquire h]
  rcases Source.snapshot.outcome w.source with ⟨e | x, s⟩
  · rfl
  · -- taking the snapshot and giving it back cancel out in the count of the readers
    simp

/-- Closed readers give no snapshot. -/
theorem outcome_withSnapshot_shut {α : Type} (h : w.readers.closed = true)
    (look : β → Except Failure α) :
    (withSnapshot look).outcome w = (.error (.catalog (.closed "acquire a reader")), w) := by
  rw [withSnapshot, outcome_bind_of_error (outcome_acquire_shut h)]

end Watched

end CodeCatalog.Search
