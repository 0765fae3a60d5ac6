/-
What one call of the engine does: it fails with the fault that the script or a consumed writer has
for it, or it makes its change. `refusal?` says beforehand which of the two it will be, so that the
outcome of every call, and of every reader step that makes one, is an equation.

An engine is `Willing` as long as it has been told to fail nowhere and its writer is alive; no call
but the ending of the writer takes that away. What a call does to the three things that an engine
holds (`Content`) is then a triple, which is sure for a willing engine and holds of every success
otherwise.
-/
import CodeCatalog.Proofs.Search.Readers
import CodeCatalog.Search.Engine

set_option autoImplicit false

namespace CodeCatalog.Search

open Act

/-! ## Calls

An engine has a script of the calls that it will refuse, and each call uses up one line of it.
Engines with nothing of this sort ahead are willing. -/

namespace Engine

variable {e : Engine} {c : Call}

/-- The fault with which the next use of a call fails; none if it succeeds. -/
def refusal? (e : Engine) (c : Call) : Option Fault :=
  match (e.script c).head? with
  | some (some f) => some f
  | _ => if c.isWriting && e.consumed then some .consumedWriter else none

/-- The engine after the script has been asked about a use of a call. -/
def spend (e : Engine) (c : Call) : Engine :=
  { e with script := Script.next e.script c }

/-- **One call.** It fails and changes nothing, or it makes its change. -/
theorem outcome_use (c : Call) (change : Engine → Engine) (e : Engine) :
    (use c change).outcome e = match e.refusal? c with
      | some f => (.error (.fault f), e.spend c)
      | none => (.ok (), change (e.spend c)) := by
  rw [use, outcome_bind, outcome_get]
  simp only [outcome_bind, outcome_set, refusal?]
  -- the script is asked first, and then whether the writer is alive
  rcases h : (e.script c).head? with _ | _ | f
  · by_cases hc : (c.isWriting && e.consumed) = true <;> simp [hc, spend]
  · by_cases hc : (c.isWriting && e.consumed) = true <;> simp [hc, spend]
  · simp [spend]

/-- The engine has been told to fail nowhere, and its writer is alive. -/
structure Willing (e : Engine) : Prop where
  script : ∀ c, ∀ o ∈ e.script c, o = none
  alive : e.consumed = false

/-- A willing engine refuses nothing. -/
theorem Willing.refusal? (h : e.Willing) (c : Call) : e.refusal? c = none := by
  rw [Engine.refusal?]
  rcases hs : (e.script c).head? with _ | _ | f
  · simp [h.alive]
  · simp [h.alive]
  · have := h.script c _ (List.mem_of_head? hs)
    exact absurd this (by simp)

/-- A willing engine stays willing after a call. -/
theorem Willing.spend (h : e.Willing) (c : Call) : (e.spend c).Willing where
  script d o ho := by
    simp only [Engine.spend, Script.next] at ho
    split at ho
    · exact h.script c o (List.mem_of_mem_drop ho)
    · exact h.script d o ho
  alive := h.alive

/-- The engine refuses readers nothing next. -/
structure Serves (e : Engine) : Prop where
  reload : e.refusal? .reload = none
  searcher : e.refusal? .searcher = none

theorem Willing.serves (h : e.Willing) : e.Serves :=
  ⟨h.refusal? .reload, h.refusal? .searcher⟩

/-- A call says nothing about the next use of another one. -/
theorem refusal?_spend {d : Call} (h : d ≠ c) (e : Engine) :
    (e.spend c).refusal? d = e.refusal? d := by
  have hscript : (e.spend c).script d = e.script d := if_neg h
  rw [refusal?, refusal?, hscript]
  rfl

/-- An engine that starts on a collection is willing. -/
theorem willing_start (committed visible : Collection) :
    Willing { committed := committed, visible := visible } where
  script _ o ho := absurd ho (by simp)
  alive := rfl

end Engine

/-! ## Content

What counts of an engine is what it has committed, what its readers see, and what waits. Each call
is a change of these three, and a triple says which. -/

/-- What an engine holds: the last commit, what readers see, and what waits for a commit. -/
structure Content where
  committed : Collection
  visible : Collection
  pending : List Change

namespace Content

/-- One more change waits. -/
def enqueue (k : Content) (c : Change) : Content :=
  { k with pending := k.pending ++ [c] }

/-- What waits has been carried out. -/
def commit (k : Content) : Content :=
  { k with committed := k.committed.changeAll k.pending, pending := [] }

/-- The last commit is seen. -/
def reload (k : Content) : Content :=
  { k with visible := k.committed }

/-- The last commit is seen, and nothing waits. -/
def settled (c : Collection) : Content :=
  ⟨c, c, []⟩

end Content

namespace Engine

variable {sure : Prop} {k k' : Content}

/-- What an engine holds. -/
def content (e : Engine) : Content :=
  ⟨e.committed, e.visible, e.pending⟩

/-- The engine has the content, and is willing if that is sure. -/
structure Has (sure : Prop) (k : Content) (e : Engine) : Prop where
  content : e.content = k
  willing : sure → e.Willing

/-- A call leaves the content that its change makes. -/
theorem triple_use {c : Call} {change : Engine → Engine}
    (hcontent : ∀ e, e.content = k → (change e).content = k')
    (hwilling : ∀ e, e.Willing → (change e).Willing) :
    Triple sure (Has sure k) (use c change) fun _ => Has sure k' := by
  intro e he
  rw [outcome_use]
  rcases hr : e.refusal? c with _ | f
  · exact ⟨hcontent _ he.content, fun h => hwilling _ ((he.willing h).spend c)⟩
  · intro h
    rw [(he.willing h).refusal? c] at hr
    exact absurd hr (by simp)

/-- A call keeps what neither its change nor the script can take away. -/
theorem keeps_use {P : Engine → Prop} {c : Call} {change : Engine → Engine}
    (hchange : ∀ e, P e → P (change e)) (hspend : ∀ e, P e → P (e.spend c)) :
    Keeps P (use c change) := by
  intro e he
  rw [outcome_use]
  rcases e.refusal? c with _ | f
  · exact hchange _ (hspend e he)
  · exact hspend e he

theorem Has.spend {e : Engine} (h : e.Has sure k) (c : Call) : (e.spend c).Has sure k where
  content := h.content
  willing hsure := (h.willing hsure).spend c

theorem triple_enqueue (c : Call) (x : Change) :
    Triple sure (Has sure k) (use c (enqueue x)) fun _ => Has sure (k.enqueue x) :=
  triple_use (fun e he => by rw [← he]; rfl) fun e he => ⟨he.script, he.alive⟩

theorem triple_commit : Triple sure (Has sure k) Engine.commit fun _ => Has sure k.commit :=
  triple_use (fun e he => by rw [← he]; rfl) fun e he => ⟨he.script, he.alive⟩

end Engine

/-! ## Readers

The watched engine adds the readers: a lock, a count and the time of the last reload. At rest they
add nothing to what the engine does. -/

namespace Watched

variable {w : Watched Engine} {now : Binary64}

/-- A reload makes the last commit visible, unless the engine refuses. -/
theorem outcome_reload (w : Watched Engine) (now : Binary64) :
    (reload now).outcome w = match w.source.refusal? .reload with
      | some f => (.error (.fault f), { w with source := w.source.spend .reload })
      | none => (.ok (), {
          source := { w.source.spend .reload with visible := w.source.committed }
          readers := { w.readers with lastReload := now } }) := by
  rw [outcome_reload_source, Source.reload, Engine.instSourceCollection]
  dsimp only
  rw [Engine.outcome_use]
  cases w.source.refusal? .reload <;> rfl

/-- A snapshot is given back, whatever is done with it. -/
theorem outcome_withSnapshot_serving {α : Type} (h : w.readers.closed = false)
    (look : Collection → Except Failure α) :
    (withSnapshot look).outcome w = match w.source.refusal? .searcher with
      | some f => (.error (.fault f), { w with source := w.source.spend .searcher })
      | none => (look w.source.visible, { w with source := w.source.spend .searcher }) := by
  rw [outcome_withSnapshot_source h, Source.snapshot, Engine.instSourceCollection]
  dsimp only
  rw [outcome_bind, Engine.outcome_use]
  cases w.source.refusal? .searcher <;> rfl

/-- Readers at rest give a snapshot of what is visible, unless the engine refuses. -/
theorem outcome_withSnapshot {α : Type} (h : w.readers.AtRest)
    (look : Collection → Except Failure α) :
    (withSnapshot look).outcome w = match w.source.refusal? .searcher with
      | some f => (.error (.fault f), { w with source := w.source.spend .searcher })
      | none => (look w.source.visible, { w with source := w.source.spend .searcher }) :=
  outcome_withSnapshot_serving h.serving look

/-! ### Triples

The triples of the engine hold of the watched one, with readers at rest before and after. -/

/-- The readers are at rest over an engine that has the content. -/
structure Has (sure : Prop) (k : Content) (w : Watched Engine) : Prop where
  rest : w.readers.AtRest
  source : w.source.Has sure k

variable {sure : Prop} {k k' : Content}

theorem Has.committed (h : w.Has sure k) : w.source.committed = k.committed :=
  congrArg Content.committed h.source.content

theorem Has.visible (h : w.Has sure k) : w.source.visible = k.visible :=
  congrArg Content.visible h.source.content

theorem Has.pending (h : w.Has sure k) : w.source.pending = k.pending :=
  congrArg Content.pending h.source.content

/-- What is done to the engine leaves the readers at rest. -/
theorem triple_onSource {a : Act Engine Unit}
    (ha : Triple sure (Engine.Has sure k) a fun _ => Engine.Has sure k') :
    Triple sure (Has sure k) (onSource a) fun _ => Has sure k' := by
  intro w hw
  have h := ha w.source hw.source
  rw [onSource, outcome_onPart]
  rcases hr : a.outcome w.source with ⟨_ | x, t⟩ <;> rw [hr] at h
  · exact h
  · exact ⟨hw.rest, h⟩

/-- A reload makes the last commit visible. -/
theorem triple_reload (now : Binary64) :
    Triple sure (Has sure k) (reload now) fun _ => Has sure k.reload := by
  intro w hw
  rw [outcome_reload]
  rcases hr : w.source.refusal? .reload with _ | f
  · refine ⟨⟨hw.rest.serving, hw.rest.unlocked⟩, ?_, fun h => ?_⟩
    · rw [← hw.source.content]
      rfl
    · exact ⟨((hw.source.willing h).spend .reload).script, (hw.source.willing h).alive⟩
  · intro h
    rw [(hw.source.willing h).refusal? .reload] at hr
    exact absurd hr (by simp)

/-- So does a refresh that is not to be skipped. -/
theorem triple_maybeRefresh_force :
    Triple sure (Has sure k) (maybeRefresh true now) fun _ => Has sure k.reload := by
  intro w hw
  have h := triple_reload now w hw
  rw [outcome_maybeRefresh_force hw.rest]
  rcases hr : (reload now).outcome w with ⟨_ | x, t⟩ <;> rw [hr] at h
  · exact h
  · exact h

/-! ### What readers keep

Reading can use up the script, make the last commit visible and note the time. A property that none
of these touches outlives all reading. -/

/-- What reading cannot take away: it lets the script go on, makes the last commit visible, and
notes the time. -/
structure Calm (P : Watched Engine → Prop) : Prop where
  rest : ∀ w, P w → w.readers.AtRest
  spend : ∀ w c, P w → P { w with source := w.source.spend c }
  reload : ∀ w now, P w → P {
    source := { w.source with visible := w.source.committed }
    readers := { w.readers with lastReload := now } }

/-- The readers are at rest over an engine with this commit. -/
structure Unmoved (c : Collection) (w : Watched Engine) : Prop where
  rest : w.readers.AtRest
  committed : w.source.committed = c

/-- Reading moves no commit and nothing that waits. -/
theorem calm_unmoved (c : Collection) : Calm (Unmoved c) where
  rest _ h := h.rest
  spend _ _ h := ⟨h.rest, h.committed⟩
  reload _ _ h := ⟨⟨h.rest.serving, h.rest.unlocked⟩, h.committed⟩

/-- Where the last commit is seen already, a reload changes nothing that is seen. -/
theorem calm_settled (c : Collection) : Calm (Has sure (.settled c)) where
  rest _ h := h.rest
  spend _ call h := ⟨h.rest, h.source.spend call⟩
  reload w now h := by
    refine ⟨⟨h.rest.serving, h.rest.unlocked⟩, ?_, fun hsure => ?_⟩
    · show (⟨w.source.committed, w.source.committed, w.source.pending⟩ : Content) = ⟨c, c, []⟩
      rw [h.committed, h.pending]
      rfl
    · exact ⟨(h.source.willing hsure).script, (h.source.willing hsure).alive⟩

section Calm

variable {P : Watched Engine → Prop} (hP : Calm P)

include hP

/-- A reload is one of the things that reading does. -/
theorem keeps_reload : Keeps P (reload now) := by
  intro w hw
  have hspent := hP.spend w .reload hw
  rw [outcome_reload]
  rcases w.source.refusal? .reload with _ | f
  · exact hP.reload _ now hspent
  · exact hspent

/-- A refresh reloads, or is skipped. -/
theorem keeps_maybeRefresh {force : Bool} : Keeps P (maybeRefresh force now) := by
  intro w hw
  rw [outcome_maybeRefresh]
  split
  · exact keeps_reload hP w hw
  · exact hw

/-- A forced refresh waits for the lock and reloads. -/
theorem keeps_refresh : Keeps P (refresh now) := by
  intro w hw
  rw [outcome_refresh (hP.rest w hw)]
  exact keeps_reload hP w hw

/-- A snapshot is taken and given back. -/
theorem keeps_withSnapshot {α : Type} {look : Collection → Except Failure α} :
    Keeps P (withSnapshot look) := by
  intro w hw
  have hspent := hP.spend w .searcher hw
  rw [outcome_withSnapshot (hP.rest w hw)]
  rcases w.source.refusal? .searcher with _ | f
  · exact hspent
  · exact hspent

end Calm

/-! ### What readers see

A reader sees what is visible, which may be older than the last commit unless a refresh comes first.
-/

/-- What the next search sees: the last commit if the search makes it visible, and otherwise what
is visible already. -/
def seen (w : Watched Engine) (now : Binary64) : Collection :=
  if w.readers.reloads false now then w.source.committed else w.source.visible

/-- Where readers are served, the refresh of a search succeeds, and so will the snapshot after it. -/
theorem exists_maybeRefresh (hrest : w.readers.AtRest) (hserves : w.source.Serves)
    (now : Binary64) : ∃ done t, (maybeRefresh false now).outcome w = (.ok done, t) ∧
      t.readers.AtRest ∧ t.source.refusal? .searcher = none ∧ t.source.visible = w.seen now := by
  -- a reload uses up its own turn of the script, not that of the searcher
  have hsearcher : (w.source.spend .reload).refusal? .searcher = none :=
    (Engine.refusal?_spend (by decide) w.source).trans hserves.searcher
  rw [outcome_maybeRefresh, outcome_reload, hserves.reload, seen]
  by_cases hdue : w.readers.reloads false now
  · rw [if_pos hdue, if_pos hdue]
    exact ⟨_, _, rfl, ⟨hrest.serving, hrest.unlocked⟩, hsearcher, rfl⟩
  · rw [if_neg hdue, if_neg hdue]
    exact ⟨_, _, rfl, hrest, hserves.searcher, rfl⟩

/-- What is settled is what a reader sees, at any time. -/
theorem Has.seen {c : Collection} (h : w.Has sure (.settled c)) (now : Binary64) :
    w.seen now = c := by
  rw [Watched.seen, h.committed, h.visible]
  exact ite_self _

/-- What is returned of a snapshot was seen in what is visible. -/
theorem triple_withSnapshot {α : Type} {look : Collection → Except Failure α}
    (hlook : sure → ∃ x, look k.visible = .ok x) :
    Triple sure (Has sure k) (withSnapshot look)
      fun x w => look k.visible = .ok x ∧ Has sure k w := by
  intro w hw
  rw [outcome_withSnapshot hw.rest, hw.visible]
  -- a snapshot is refused or a look fails only where nothing is sure
  rcases hr : w.source.refusal? .searcher with _ | f
  · rcases hx : look k.visible with e | x
    · intro hsure
      obtain ⟨x, hx'⟩ := hlook hsure
      rw [hx] at hx'
      exact absurd hx' nofun
    · exact ⟨rfl, hw.rest, hw.source.spend .searcher⟩
  · intro h
    rw [(hw.source.willing h).refusal? .searcher] at hr
    exact absurd hr nofun

end Watched

end CodeCatalog.Search
