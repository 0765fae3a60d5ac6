/-
Actions: steps that change a state and may fail. A failure keeps the changes made before it, so what
an action leaves behind can be told on both outcomes.
-/
import CodeCatalog.Failure

set_option autoImplicit false

namespace CodeCatalog

/-- A step that changes a state and returns a value or fails. -/
abbrev Act (σ α : Type) := ExceptT Failure (StateM σ) α

namespace Act

variable {σ τ α : Type}

/-- The outcome of an action and the state it leaves. -/
def outcome (a : Act σ α) (s : σ) : Except Failure α × σ :=
  a.run.run s

/-- An action from what it does to a state. -/
def ofOutcome (f : σ → Except Failure α × σ) : Act σ α :=
  ExceptT.mk f

/-- Fail with a catalogue error. -/
def refuse (e : CatalogError) : Act σ α :=
  throw (.catalog e)

/-- Fail with a fault. -/
def fail (f : Fault) : Act σ α :=
  throw (.fault f)

/-- An action that only computes. -/
def ofFault : Except Fault α → Act σ α
  | .ok a => pure a
  | .error f => fail f

/-- The outcome of an action as a value, so that it can be looked at. -/
def attempt (a : Act σ α) : Act σ (Except Failure α) :=
  ofOutcome fun s => let (r, s) := a.outcome s; (.ok r, s)

/-- An action, and a change that comes after it on either outcome. -/
def ensuring (a : Act σ α) (last : σ → σ) : Act σ α :=
  ofOutcome fun s => let (r, s) := a.outcome s; (r, last s)

/-- An action on a part of a state. -/
def onPart (get : τ → σ) (set : τ → σ → τ) (a : Act σ α) : Act τ α :=
  ofOutcome fun t => let (r, s) := a.outcome (get t); (r, set t s)

end Act

end CodeCatalog
