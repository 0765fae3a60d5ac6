/-
Readers: who may look at an index, and how often it is looked at anew.

A reload makes recent commits visible. It is skipped while someone else holds the refresh lock, and,
unless forced, while the last reload is younger than the interval. A snapshot shows what the last
reload made visible and is counted from its acquisition to its release. After closing there are no
more reloads and no more snapshots; those still held stay valid.
-/
import CodeCatalog.Act
import CodeCatalog.Decimal.Binary64
import CodeCatalog.Log.Event

set_option autoImplicit false

namespace CodeCatalog.Search

open Log

/-- The state of the readers of an index. -/
structure Readers where
  /-- A reload is skipped if the last one is younger than this, in seconds. -/
  interval : Binary64
  lockHeld : Bool := false
  /-- When the last reload that succeeded ended. -/
  lastReload : Binary64 := .zero
  /-- Snapshots acquired and not yet released. -/
  active : Int := 0
  closed : Bool := false
  deriving Repr, DecidableEq, Inhabited

namespace Readers

/-- Whether the last reload is younger than the interval. -/
def isRecent (r : Readers) (now : Binary64) : Bool :=
  (now.sub r.lastReload).lt r.interval

/-- Whether a refresh that does not wait reloads. -/
def reloads (r : Readers) (force : Bool) (now : Binary64) : Bool :=
  !r.closed && (force || !r.isRecent now) && !r.lockHeld

end Readers

/-- What readers look at: a reload that makes commits visible, and a snapshot of what is visible. -/
class Source (σ : Type) (β : outParam Type) where
  reload : Act σ Unit
  snapshot : Act σ β

/-- A source together with its readers. -/
structure Watched (σ : Type) where
  source : σ
  readers : Readers
  deriving Inhabited

namespace Watched

variable {σ β : Type} [Source σ β]

/-- An action on the source alone. -/
def onSource {α : Type} (a : Act σ α) : Act (Watched σ) α :=
  a.onPart Watched.source fun w s => { w with source := s }

/-- The refresh lock as held or as free. -/
def setLock (held : Bool) (w : Watched σ) : Watched σ :=
  { w with readers := { w.readers with lockHeld := held } }

/-- Take the refresh lock if it is free; tells whether it was. -/
def tryLock : Act (Watched σ) Bool := do
  let free := !(← get).readers.lockHeld
  modify (setLock true)
  return free

/-- Give the refresh lock back. -/
def unlock : Act (Watched σ) Unit := do
  if !(← get).readers.lockHeld then Act.fail .notLocked
  modify (setLock false)

/-- Reload, and note the time of the end if that succeeds. -/
def reload (ended : Binary64) : Act (Watched σ) Unit := do
  onSource Source.reload
  modify fun w => { w with readers := { w.readers with lastReload := ended } }

/-- Reload unless that is too early, or someone else is reloading; tells whether it was done. The
clock is read at the beginning, and again at the end of a reload. -/
def maybeRefreshUntil (force : Bool) (now ended : Binary64) : Act (Watched σ) Bool := do
  let r := (← get).readers
  if r.closed then return false
  if !force && r.isRecent now then return false
  if !(← tryLock) then return false
  (reload ended).ensuring (setLock false)
  return true

/-- Reload unless that is too early, or someone else is reloading, in no time. -/
def maybeRefresh (force : Bool) (now : Binary64) : Act (Watched σ) Bool :=
  maybeRefreshUntil force now now

/-- Reload now. A lock that is held is waited for, so that its holder has given it back before. -/
def refresh (ended : Binary64) : Act (Watched σ) Unit := do
  if (← get).readers.closed then Act.refuse (.closed "refresh")
  modify (setLock true)
  (reload ended).ensuring (setLock false)

/-- The readers with more or fewer snapshots to count. -/
def count (n : Int) (w : Watched σ) : Watched σ :=
  { w with readers := { w.readers with active := w.readers.active + n } }

/-- Take a snapshot. -/
def acquire : Act (Watched σ) β := do
  if (← get).readers.closed then Act.refuse (.closed "acquire a reader")
  let snapshot ← onSource Source.snapshot
  modify (count 1)
  return snapshot

/-- Give a snapshot back. -/
def release : Act (Watched σ) Unit :=
  modify (count (-1))

/-- Give back the snapshot at a position among those that are held. A negative position counts from
their end. -/
def releaseAt (position : Int) : Act (Watched σ) Unit := do
  let held := (← get).readers.active
  if held = 0 then Act.fail .nothingLeft
  else if position < -held ∨ held ≤ position then Act.fail .noPosition
  else release

/-- Do something with a snapshot, which is given back in any case. -/
def withSnapshot {α : Type} (use : β → Except Failure α) : Act (Watched σ) α := do
  let snapshot ← acquire
  (Act.ofOutcome fun w => (use snapshot, w)).ensuring (count (-1))

/-- Hand out no more snapshots; tells the event that goes with it. -/
def close (w : Watched σ) : Watched σ × List Event :=
  if w.readers.closed then (w, [])
  else
    ({ w with readers := { w.readers with closed := true } },
      if w.readers.active = 0 then []
      else [⟨.debug, "reader_manager_closed_with_active", [("active", .int w.readers.active)]⟩])

end Watched

end CodeCatalog.Search
