/-
When a refresh reloads, told by the reloads before it.

Readers keep one time, that of the last reload that has succeeded, and measure with it. Where the
clock does not go back, that says the same about all reloads: the last one is the youngest, and
rounding keeps the order of differences (`due_iff_last`). So a refresh that is not forced is skipped
just where the lock is held, or some reload has succeeded less than the interval ago, with one
exception and one addition. A difference that is rounded up to the interval itself does not count as
less. And new readers stand as if a reload had succeeded at the zero of the clock: where the clock
shows less than the interval, the first refresh is skipped as well.
-/
import CodeCatalog.Proofs.Decimal.Rounding
import CodeCatalog.Proofs.Search.Accounting

set_option autoImplicit false

namespace CodeCatalog.Search.Readers

open Act

/-! ## Times

The clock gives numbers that may be rounded when they are subtracted. What is due is told by the
last reload, and a steady clock makes that the same as telling it by all of them. -/

/-- What a clock shows one after the other: numbers that do not go back. -/
structure Steady (times : List Binary64) : Prop where
  finite : ∀ t ∈ times, t.isFinite = true
  forward : times.Pairwise fun t u => t.signedUnits ≤ u.signedUnits

/-- A time is less than the interval ago, without any rounding. -/
def Within (interval now t : Binary64) : Prop :=
  Binary64.Below (now.signedUnits - t.signedUnits) interval

/-- No time is less than the interval ago, unless the difference is rounded up to the interval. -/
def Due (interval now : Binary64) (past : List Binary64) : Prop :=
  ∀ t ∈ past, Within interval now t → now.sub t = interval

section Times

variable {interval now t u : Binary64} {times past : List Binary64}

theorem Steady.sublist (h : Steady times) (hpast : past.Sublist times) : Steady past :=
  ⟨fun t ht => h.finite t (hpast.subset ht), h.forward.sublist hpast⟩

/-- What is measured is the exact difference, unless that is rounded up to the interval. -/
theorem sub_lt_iff (hinterval : interval.IsAmount) (hnow : now.isFinite = true)
    (ht : t.isFinite = true) :
    (now.sub t).lt interval = true ↔ Within interval now t ∧ now.sub t ≠ interval := by
  obtain ⟨z, hsub⟩ := Binary64.sub_eq_ofUnits hnow ht
  rw [hsub]
  exact Binary64.ofUnits_lt_iff hinterval

/-- After one reload the next is due when the interval is over since. -/
theorem due_singleton_iff (hinterval : interval.IsAmount) (hnow : now.isFinite = true)
    (ht : t.isFinite = true) : Due interval now [t] ↔ (now.sub t).lt interval = false := by
  rw [← Bool.not_eq_true, sub_lt_iff hinterval hnow ht]
  simp [Due]

/-- **A younger time is measured as younger**, if an older one is. -/
theorem sub_lt_mono (hinterval : interval.IsAmount) (hnow : now.isFinite = true)
    (ht : t.isFinite = true) (hu : u.isFinite = true) (htu : t.signedUnits ≤ u.signedUnits)
    (h : (now.sub t).lt interval = true) : (now.sub u).lt interval = true := by
  obtain ⟨z, hsub⟩ := Binary64.sub_eq_ofUnits hnow ht
  obtain ⟨z', hsub'⟩ := Binary64.sub_eq_ofUnits hnow hu
  rw [hsub] at h
  rw [hsub']
  exact Binary64.ofUnits_lt_mono hinterval (by omega) h

/-- **The last time stands for all times.** -/
theorem due_iff_last (hinterval : interval.IsAmount) (h : Steady ((t :: past).reverse ++ [now])) :
    Due interval now (t :: past) ↔ (now.sub t).lt interval = false := by
  have hnow : now.isFinite = true := h.finite now (by simp)
  have ht : t.isFinite = true := h.finite t (by simp)
  rw [← due_singleton_iff hinterval hnow ht]
  constructor
  · intro hdue u hu
    exact hdue u (List.mem_cons.mpr (.inl (List.mem_singleton.mp hu)))
  · intro hlast u hu hwithin
    by_contra hne
    -- an older time that is measured as less than the interval ago would make the last one so, too
    have hufinite : u.isFinite = true :=
      h.finite u (List.mem_append_left _ (List.mem_reverse.mpr hu))
    have hle : u.signedUnits ≤ t.signedUnits := by
      rcases List.mem_cons.mp hu with rfl | hpast
      · exact le_rfl
      · have hforward := (List.pairwise_append.mp h.forward).1
        rw [List.reverse_cons, List.pairwise_append] at hforward
        exact hforward.2.2 u (List.mem_reverse.mpr hpast) t (List.mem_singleton.mpr rfl)
    have hyoung := sub_lt_mono hinterval hnow hufinite ht hle
      ((sub_lt_iff hinterval hnow hufinite).mpr ⟨hwithin, hne⟩)
    rw [(due_singleton_iff hinterval hnow ht).mp hlast] at hyoung
    exact absurd hyoung nofun

end Times

/-! ## Reloads in a run

The reloads of a run are at times that it has read, in their order, and its interval never changes.
So whether a refresh is made is decided by the times that were read. -/

section Pacing

variable {σ β : Type} {m : Move σ β} {interval now ended : Binary64} {moves : List (Move σ β)}

/-- What the clock shows during a move. -/
def Move.readings : Move σ β → List Binary64
  | .maybeRefresh _ now ended => [now, ended]
  | .refresh ended => [ended]
  | _ => []

/-- What has succeeded during a move has ended at a time that the clock has shown. -/
theorem reloads_after (a : Account β) (m : Move σ β) (reply : Except Failure (Reply β)) :
    (a.after m reply).reloads.reverse.Sublist (a.reloads.reverse ++ m.readings) := by
  have hsame : a.reloads.reverse.Sublist (a.reloads.reverse ++ m.readings) :=
    List.sublist_append_left _ _
  rcases m with ⟨force, now, ended⟩ | ended | _ | i | look | _ | _ | change | _
  · rcases reply with e | _ | (_ | _) | x | es
    -- only a refresh that is told to have reloaded adds the time at which it ended
    case ok.told.true =>
      show ((ended :: a.reloads).reverse).Sublist _
      rw [List.reverse_cons, Move.readings]
      exact (List.append_sublist_append_left _).mpr (List.sublist_cons_self _ _)
    all_goals exact hsame
  · rcases reply with e | _
    · exact hsame
    · show ((ended :: a.reloads).reverse).Sublist _
      rw [List.reverse_cons, Move.readings]
  · rcases reply with e | _ | b | x | es <;> exact hsame
  · rcases reply with e | _ <;> exact hsame
  · exact hsame
  · rcases reply with e | _ | (_ | _) | x | es <;> exact hsame
  · rcases reply with e | _ <;> exact hsame
  · exact hsame
  · exact hsame

/-- No move changes the interval. -/
theorem interval_effect (m : Move σ β) (reply : Except Failure (Reply β)) (r : Readers) :
    (m.effect reply r).interval = r.interval := by
  rcases m with ⟨force, now, ended⟩ | ended | _ | i | look | _ | _ | change | _ <;>
    rcases reply with e | _ | (_ | _) | x | es <;> rfl

variable [Source σ β] {s : Scene σ β}

/-- A run reloads at some of the times that it reads, in their order. -/
theorem reloads_run (s : Scene σ β) (moves : List (Move σ β)) :
    (s.run moves).account.reloads.reverse.Sublist
      (s.account.reloads.reverse ++ moves.flatMap Move.readings) := by
  induction moves generalizing s with
  | nil => simp [Scene.run]
  | cons m moves ih =>
    -- a move adds the reading of its clock or none
    have hnext : (s.next m).account.reloads.reverse.Sublist
        (s.account.reloads.reverse ++ m.readings) := by
      rw [Scene.next]
      split_ifs
      · exact reloads_after s.account m _
      · exact List.sublist_append_left _ _
    rw [List.flatMap_cons, ← List.append_assoc]
    exact (ih (s.next m)).trans ((List.append_sublist_append_right _).mpr hnext)

/-- No run changes the interval. -/
theorem interval_run (h : Accounted s.watched.readers s.account) (moves : List (Move σ β)) :
    (s.run moves).watched.readers.interval = s.watched.readers.interval := by
  induction moves generalizing s with
  | nil => rfl
  | cons m moves ih =>
    refine (ih (accounted_next h m)).trans ?_
    rw [Scene.next]
    split_ifs with hm
    · dsimp only
      rw [readers_action (h.not_waits hm), interval_effect]
    · rfl

/-- **When readers are recent.** After a run the readers hold their last reload for recent just
where some reload is, or, where none has succeeded, the zero of the clock is. -/
theorem isRecent_run (hinterval : interval.IsAmount) (source : σ)
    (hclock : Steady (moves.flatMap Move.readings ++ [now])) :
    let s := (Scene.start interval source : Scene σ β).run moves
    s.watched.readers.isRecent now = false ↔ Due interval now s.account.reloads ∧
      (s.account.reloads = [] → Due interval now [.zero]) := by
  intro s
  have hstart : Accounted (Scene.start interval source : Scene σ β).watched.readers _ :=
    accounted_start interval source
  have hlast : s.watched.readers.lastReload = s.account.reloads.headD .zero :=
    (accounted_run hstart moves).lastReload
  have hfixed : s.watched.readers.interval = interval := interval_run hstart moves
  -- the reloads are among what the clock has shown, so they inherit its order
  have hpast : Steady (s.account.reloads.reverse ++ [now]) :=
    hclock.sublist ((List.append_sublist_append_right _).mpr (reloads_run _ moves))
  rw [Readers.isRecent, hlast, hfixed]
  rcases hreloads : s.account.reloads with _ | ⟨t, past⟩
  · -- nothing has succeeded, so what is noted is the zero that readers start with
    have hnow : now.isFinite = true := hclock.finite now (by simp)
    rw [List.headD_nil, ← due_singleton_iff hinterval hnow rfl]
    exact ⟨fun h => ⟨nofun, fun _ => h⟩, fun h => h.2 rfl⟩
  · rw [hreloads] at hpast
    rw [List.headD_cons, ← due_iff_last hinterval hpast]
    exact ⟨fun h => ⟨h, nofun⟩, fun h => h.1⟩

/-- **When a refresh reloads.** For every interval, every clock that does not go back, and
everything that may have been done with readers that are not closed: a refresh that does not wait
reloads just if nobody has the refresh lock and it is due, and does nothing otherwise. A forced one
is always due. One that is not forced is due if no reload has succeeded less than the interval ago,
save for a difference that is rounded up to the interval, and if the zero of the clock counts as a
reload where none has succeeded. A reload that has failed counts for nothing. -/
theorem maybeRefresh_paced (hinterval : interval.IsAmount) (source : σ) (hopen : .close ∉ moves)
    (hclock : Steady (moves.flatMap Move.readings ++ [now])) (force : Bool) (ended : Binary64) :
    let s := (Scene.start interval source : Scene σ β).run moves
    let due := force = true ∨ (Due interval now s.account.reloads ∧
      (s.account.reloads = [] → Due interval now [.zero]))
    let r := (Watched.reload ended).outcome s.watched
    let outcome := (Watched.maybeRefreshUntil force now ended).outcome s.watched
    (s.account.locked = false ∧ due → outcome = (r.1.map fun _ => true, r.2)) ∧
      (¬ (s.account.locked = false ∧ due) → outcome = (.ok false, s.watched)) := by
  intro s due r outcome
  have hstart : Accounted (Scene.start interval source : Scene σ β).watched.readers _ :=
    accounted_start interval source
  have hlock : s.watched.readers.lockHeld = s.account.locked := (accounted_run hstart moves).lock
  have hserving : s.watched.readers.closed = false := by
    rw [← Bool.not_eq_true, closed_run hstart moves]
    exact fun h => hopen (h.resolve_left nofun)
  have hdue : due ↔ (force || !s.watched.readers.isRecent now) = true := by
    rw [Bool.or_eq_true, Bool.not_eq_true']
    exact or_congr_right (isRecent_run hinterval source hclock).symm
  -- a reload takes place when the readers serve, the lock is free, and the refresh is due or forced
  have hreloads : s.watched.readers.reloads force now = true ↔ s.account.locked = false ∧ due := by
    rw [Readers.reloads, hserving, hlock, hdue, Bool.and_eq_true, Bool.and_eq_true]
    simp only [Bool.not_false, true_and, Bool.not_eq_true']
    exact and_comm
  have houtcome : outcome = _ := Watched.outcome_maybeRefreshUntil s.watched force now ended
  refine ⟨fun h => ?_, fun h => ?_⟩
  · rw [houtcome, if_pos (hreloads.mpr h)]
  · rw [houtcome, if_neg (fun h' => h (hreloads.mp h'))]

end Pacing

/-- A whole number of seconds. -/
def seconds (n : Nat) : Binary64 :=
  .finite false (n * Binary64.unitsPerOne)

/-- Readers with an interval of a minute have reloaded half a minute after the zero of the clock:
they do so again a minute later, and not before. -/
theorem maybeRefresh_paced_minute :
    let moves : List (Move Counter Nat) := [.maybeRefresh true (seconds 30) (seconds 30)]
    let s := (Scene.start (seconds 60) {} : Scene Counter Nat).run moves
    (Watched.maybeRefreshUntil false (seconds 89) (seconds 89)).outcome s.watched =
        (.ok false, s.watched) ∧
      ((Watched.maybeRefreshUntil false (seconds 90) (seconds 90)).outcome s.watched).1 =
        .ok true := by
  intro moves s
  have hminute : (seconds 60).IsAmount := by decide +kernel
  have hopen : .close ∉ moves := fun h => absurd (List.mem_singleton.mp h) nofun
  have hreloads : s.account.reloads = [seconds 30] := by decide +kernel
  have hlocked : s.account.locked = false := by decide +kernel
  -- one second before the minute is over and on the minute, after a reload at second thirty
  have hearly : ¬ Due (seconds 60) (seconds 89) [seconds 30] := by
    rw [due_singleton_iff hminute rfl rfl]
    decide +kernel
  have hlate : Due (seconds 60) (seconds 90) [seconds 30] := by
    rw [due_singleton_iff hminute rfl rfl]
    decide +kernel
  have hclock : Steady (moves.flatMap Move.readings ++ [seconds 89]) :=
    ⟨by decide +kernel, by decide +kernel⟩
  have hclock' : Steady (moves.flatMap Move.readings ++ [seconds 90]) :=
    ⟨by decide +kernel, by decide +kernel⟩
  have hskip := (maybeRefresh_paced hminute ({} : Counter) hopen hclock false (seconds 89)).2
  have hreload := (maybeRefresh_paced hminute ({} : Counter) hopen hclock' false (seconds 90)).1
  refine ⟨hskip ?_, ?_⟩
  · rintro ⟨-, hforce | ⟨hdue, -⟩⟩
    · exact absurd hforce nofun
    · rw [hreloads] at hdue
      exact hearly hdue
  · rw [hreload ⟨hlocked, .inr ?_⟩]
    · rfl
    · rw [hreloads]
      exact ⟨hlate, nofun⟩

/-- **The first refresh is skipped.** New readers with an interval of a minute do not reload half a
minute after the zero of the clock, though nobody has their lock and no reload has ever succeeded.
-/
theorem maybeRefresh_first_skipped :
    let s : Scene Counter Nat := Scene.start (seconds 60) {}
    s.account.locked = false ∧ s.account.reloads = [] ∧
      (Watched.maybeRefreshUntil false (seconds 30) (seconds 30)).outcome s.watched =
        (.ok false, s.watched) := by
  intro s
  refine ⟨rfl, rfl, ?_⟩
  rw [Watched.outcome_maybeRefreshUntil, if_neg]
  decide +kernel

end CodeCatalog.Search.Readers
