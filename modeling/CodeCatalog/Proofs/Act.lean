/-
How actions run: the outcome of each way of building an action, in terms of the outcomes of its
parts, and the rules that the rest of the theory uses instead of unfolding actions.

`outcome_bind_ok` takes a run that succeeds apart into the runs of its steps. `Keeps` is what holds
of the state after every step, whether it succeeds or fails; a failure keeps the changes before it,
so an invariant has to be carried past failures too, and the rules for `Keeps` do that without
looking at the values that steps return. `Triple` is what holds of the value and the state of a run
that succeeds. It comes with a switch: with `sure` the action must also succeed. So one proof about
an action says what its success means, and that it succeeds where everything below it does.

Where a failure has to be described as exactly as a success, `Outcomes` has a postcondition for each
of the two.
-/
import CodeCatalog.Act
import Mathlib.Tactic

set_option autoImplicit false

namespace CodeCatalog.Act

variable {σ τ α β : Type}

/-! ## Outcomes

One equation for each way of building an action, tagged for the simplifier. Nothing after this
section opens the monad. -/

@[simp] theorem outcome_pure (x : α) (s : σ) : (pure x : Act σ α).outcome s = (.ok x, s) := rfl

@[simp] theorem outcome_throw (e : Failure) (s : σ) :
    (throw e : Act σ α).outcome s = (.error e, s) := rfl

@[simp] theorem outcome_refuse (e : CatalogError) (s : σ) :
    (refuse e : Act σ α).outcome s = (.error (.catalog e), s) := rfl

@[simp] theorem outcome_fail (f : Fault) (s : σ) :
    (fail f : Act σ α).outcome s = (.error (.fault f), s) := rfl

@[simp] theorem outcome_get (s : σ) : (get : Act σ σ).outcome s = (.ok s, s) := rfl

@[simp] theorem outcome_set (s t : σ) : (set t : Act σ PUnit).outcome s = (.ok ⟨⟩, t) := rfl

@[simp] theorem outcome_modify (f : σ → σ) (s : σ) :
    (modify f : Act σ PUnit).outcome s = (.ok ⟨⟩, f s) := rfl

@[simp] theorem outcome_ofOutcome (f : σ → Except Failure α × σ) (s : σ) :
    (ofOutcome f).outcome s = f s := rfl

@[simp] theorem outcome_attempt (a : Act σ α) (s : σ) :
    a.attempt.outcome s = (.ok (a.outcome s).1, (a.outcome s).2) := rfl

@[simp] theorem outcome_ensuring (a : Act σ α) (last : σ → σ) (s : σ) :
    (a.ensuring last).outcome s = ((a.outcome s).1, last (a.outcome s).2) := rfl

@[simp] theorem outcome_onPart (get : τ → σ) (set : τ → σ → τ) (a : Act σ α) (t : τ) :
    (a.onPart get set).outcome t = ((a.outcome (get t)).1, set t (a.outcome (get t)).2) := rfl

/-- The steps of a sequence run one after the other, and the first failure ends it. -/
theorem outcome_bind (a : Act σ α) (f : α → Act σ β) (s : σ) :
    (a >>= f).outcome s = match a.outcome s with
      | (.ok x, t) => (f x).outcome t
      | (.error e, t) => (.error e, t) := by
  -- the two layers of the monad are opened here, and nowhere else for a sequence
  show (ExceptT.bind a f).run.run s = _
  unfold ExceptT.bind outcome
  simp only [ExceptT.run, ExceptT.mk, StateT.run, bind, StateT.bind]
  rcases h : a s with ⟨r, t⟩
  cases r <;> rfl

/-- What is made of the value that an action returns changes nothing of what it leaves. -/
theorem outcome_bind_pure (a : Act σ α) (f : α → β) (s : σ) :
    (a >>= fun x => (pure (f x) : Act σ β)).outcome s =
      ((a.outcome s).1.map f, (a.outcome s).2) := by
  rw [outcome_bind]
  rcases a.outcome s with ⟨_ | x, t⟩
  · rfl
  · rfl

/-- A value that is thrown away takes no change with it. -/
theorem outcome_discard (a : Act σ α) (s : σ) :
    (discard a : Act σ PUnit).outcome s = ((a.outcome s).1.map fun _ => ⟨⟩, (a.outcome s).2) := by
  show (ExceptT.map (fun _ => PUnit.unit) a).run.run s = _
  unfold ExceptT.map outcome
  simp only [ExceptT.run, ExceptT.mk, StateT.run, bind, StateT.bind]
  rcases h : a s with ⟨r, t⟩
  cases r <;> rfl

@[simp] theorem outcome_ite (c : Prop) [Decidable c] (a b : Act σ α) (s : σ) :
    (if c then a else b).outcome s = if c then a.outcome s else b.outcome s := by
  split <;> rfl

/-! ## Runs that succeed

A run of a sequence is taken apart at its first step. Which of the four lemmas applies depends on
whether the outcome of that step is known or is to be found. -/

theorem outcome_bind_of_ok {a : Act σ α} {f : α → Act σ β} {s t : σ} {x : α}
    (h : a.outcome s = (.ok x, t)) : (a >>= f).outcome s = (f x).outcome t := by
  rw [outcome_bind, h]

theorem outcome_bind_of_error {a : Act σ α} {f : α → Act σ β} {s t : σ} {e : Failure}
    (h : a.outcome s = (.error e, t)) : (a >>= f).outcome s = (.error e, t) := by
  rw [outcome_bind, h]

/-- A sequence succeeds just when its steps do. -/
theorem outcome_bind_ok {a : Act σ α} {f : α → Act σ β} {s u : σ} {y : β} :
    (a >>= f).outcome s = (.ok y, u) ↔
      ∃ x t, a.outcome s = (.ok x, t) ∧ (f x).outcome t = (.ok y, u) := by
  rw [outcome_bind]
  rcases h : a.outcome s with ⟨_ | x, t⟩ <;> simp

/-- A sequence fails where one of its steps does. -/
theorem outcome_bind_error {a : Act σ α} {f : α → Act σ β} {s u : σ} {e : Failure} :
    (a >>= f).outcome s = (.error e, u) ↔ a.outcome s = (.error e, u) ∨
      ∃ x t, a.outcome s = (.ok x, t) ∧ (f x).outcome t = (.error e, u) := by
  rw [outcome_bind]
  rcases h : a.outcome s with ⟨_ | x, t⟩ <;> simp

/-! ## Invariants

An invariant is kept past failures too, so these rules ask nothing of the values that steps return.
`bind_get` lets a step depend on the state that it finds. -/

/-- The action keeps `P`: it holds afterwards if it held before, on success and on failure. -/
def Keeps (P : σ → Prop) (a : Act σ α) : Prop :=
  ∀ s, P s → P (a.outcome s).2

variable {P : σ → Prop}

/-- An invariant after a run that is known. -/
theorem Keeps.of_outcome {a : Act σ α} {s t : σ} {r : Except Failure α} (h : Keeps P a) (hs : P s)
    (hr : a.outcome s = (r, t)) : P t := by
  have := h s hs
  rw [hr] at this
  exact this

theorem Keeps.pure (x : α) : Keeps P (pure x : Act σ α) := fun _ h => h

theorem Keeps.throw (e : Failure) : Keeps P (throw e : Act σ α) := fun _ h => h

theorem Keeps.refuse (e : CatalogError) : Keeps P (refuse e : Act σ α) := fun _ h => h

theorem Keeps.fail (f : Fault) : Keeps P (fail f : Act σ α) := fun _ h => h

theorem Keeps.get : Keeps P (get : Act σ σ) := fun _ h => h

theorem Keeps.modify {f : σ → σ} (hf : ∀ s, P s → P (f s)) : Keeps P (modify f : Act σ PUnit) := hf

theorem Keeps.attempt {a : Act σ α} (ha : Keeps P a) : Keeps P a.attempt := ha

/-- What a first step leaves is kept by those that follow it. -/
theorem Keeps.after {a : Act σ α} {f : α → Act σ β} {s : σ} (ha : P (a.outcome s).2)
    (hf : ∀ x, Keeps P (f x)) : P ((a >>= f).outcome s).2 := by
  -- a failure of the first step leaves what that step left
  rw [outcome_bind]
  rcases hr : a.outcome s with ⟨_ | x, t⟩ <;> rw [hr] at ha
  · exact ha
  · exact hf x t ha

theorem Keeps.bind {a : Act σ α} {f : α → Act σ β} (ha : Keeps P a) (hf : ∀ x, Keeps P (f x)) :
    Keeps P (a >>= f) :=
  fun s hs => Keeps.after (ha s hs) hf

/-- An action that starts by looking at the state may use what it sees. -/
theorem Keeps.bind_get {f : σ → Act σ β} (hf : ∀ s, P s → P ((f s).outcome s).2) :
    Keeps P (MonadState.get >>= f) := by
  intro s hs
  rw [outcome_bind, outcome_get]
  exact hf s hs

/-- An invariant does not ask for the value. -/
theorem Keeps.discard {a : Act σ α} (ha : Keeps P a) : Keeps P (discard a : Act σ PUnit) := by
  intro s hs
  rw [outcome_discard]
  exact ha s hs

/-- An invariant of both ways is one of the choice. -/
theorem Keeps.ite {c : Prop} [Decidable c] {a b : Act σ α} (ha : Keeps P a) (hb : Keeps P b) :
    Keeps P (if c then a else b) := by
  split
  · exact ha
  · exact hb

/-! ## Triples

A precondition, an action, and what holds of value and state after a success. Where success is
`sure`, it is part of the claim; otherwise failing proves anything, and only success has to be
described. -/

/-- **A triple.** From a state in `P` the action returns a value and leaves a state as `Q` says, or
it fails; and `sure` rules the failure out. -/
def Triple (sure : Prop) (P : σ → Prop) (a : Act σ α) (Q : α → σ → Prop) : Prop :=
  ∀ s, P s → match a.outcome s with
    | (.ok x, t) => Q x t
    | (.error _, _) => ¬ sure

variable {sure : Prop} {Q Q' : α → σ → Prop}

/-- What holds after a run that is known to succeed. -/
theorem Triple.ok {a : Act σ α} {s t : σ} {x : α} (h : Triple sure P a Q) (hs : P s)
    (ha : a.outcome s = (.ok x, t)) : Q x t := by
  have := h s hs
  rw [ha] at this
  exact this

/-- An action that is sure to succeed does. -/
theorem Triple.exists_ok {a : Act σ α} {s : σ} (h : Triple True P a Q) (hs : P s) :
    ∃ x t, a.outcome s = (.ok x, t) ∧ Q x t := by
  have := h s hs
  rcases ha : a.outcome s with ⟨_ | x, t⟩ <;> rw [ha] at this
  · exact absurd trivial this
  · exact ⟨x, t, rfl, this⟩

theorem Triple.pure {x : α} (h : ∀ s, P s → Q x s) : Triple sure P (pure x : Act σ α) Q := h

theorem Triple.fail {f : Fault} (h : ∀ s, P s → ¬ sure) :
    Triple sure P (fail f : Act σ α) Q := h

theorem Triple.modify {f : σ → σ} {Q : PUnit → σ → Prop} (h : ∀ s, P s → Q ⟨⟩ (f s)) :
    Triple sure P (modify f : Act σ PUnit) Q := h

/-- What holds afterwards may be weakened. -/
theorem Triple.mono {a : Act σ α} (h : Triple sure P a Q) (hQ : ∀ x s, Q x s → Q' x s) :
    Triple sure P a Q' := by
  intro s hs
  have := h s hs
  rcases ha : a.outcome s with ⟨_ | x, t⟩ <;> rw [ha] at this
  · exact this
  · exact hQ x t this

/-- What holds after the first step is what the second one starts from. -/
theorem Triple.bind {a : Act σ α} {f : α → Act σ β} {R : β → σ → Prop} (ha : Triple sure P a Q)
    (hf : ∀ x, Triple sure (Q x) (f x) R) : Triple sure P (a >>= f) R := by
  intro s hs
  have h := ha s hs
  rcases hr : a.outcome s with ⟨_ | x, t⟩ <;> rw [hr] at h
  · rw [outcome_bind_of_error hr]
    exact h
  · rw [outcome_bind_of_ok hr]
    exact hf x t h

theorem Triple.get : Triple sure P (MonadState.get : Act σ σ) fun _ => P := fun _ h => h

/-- An action that starts by looking at the state may use what it sees. -/
theorem Triple.bind_get {f : σ → Act σ β} {R : β → σ → Prop}
    (hf : ∀ s, P s → Triple sure (· = s) (f s) R) : Triple sure P (MonadState.get >>= f) R := by
  intro s hs
  rw [outcome_bind, outcome_get]
  exact hf s hs s rfl

/-- From a known state, what is seen is that state. -/
theorem Triple.bind_get_at {s : σ} {f : σ → Act σ β} {R : β → σ → Prop}
    (hf : Triple sure (· = s) (f s) R) : Triple sure (· = s) (MonadState.get >>= f) R := by
  refine Triple.bind_get ?_
  rintro _ rfl
  exact hf

/-- Looking at an outcome never fails; the triple says what is seen. -/
theorem Triple.attempt {a : Act σ α} (h : Triple sure P a Q) :
    Triple sure P a.attempt fun r s => match r with
      | .ok x => Q x s
      | .error _ => ¬ sure := by
  -- the failures that `sure` rules out are those that the triple of the action rules out
  intro s hs
  have := h s hs
  rw [outcome_attempt]
  rcases ha : a.outcome s with ⟨_ | x, t⟩ <;> rw [ha] at this
  · exact this
  · exact this

/-- What does not speak of the value holds without it. -/
theorem Triple.discard {a : Act σ α} {Q : σ → Prop} (h : Triple sure P a fun _ => Q) :
    Triple sure P (discard a : Act σ PUnit) fun _ => Q := by
  intro s hs
  have := h s hs
  rw [outcome_discard]
  rcases ha : a.outcome s with ⟨_ | x, t⟩ <;> rw [ha] at this
  · exact this
  · exact this

/-- Where nothing is sure, an action that never returns has every triple. -/
theorem Triple.of_never {a : Act σ α} (h : ∀ s x t, a.outcome s ≠ (.ok x, t))
    (hP : ∀ s, P s → ¬ sure) : Triple sure P a Q := by
  intro s hs
  rcases ha : a.outcome s with ⟨_ | x, t⟩
  · exact hP s hs
  · exact absurd ha (h s x t)

/-- An action that looks at the outcome of another is sure of the state that is always left. -/
theorem Keeps.triple_attempt {a : Act σ α} (h : Keeps P a) : Triple True P a.attempt fun _ => P :=
  h

/-- What an action keeps it keeps where it succeeds. -/
theorem Keeps.triple {a : Act σ α} (h : Keeps P a) : Triple False P a fun _ => P := by
  intro s hs
  have := h s hs
  rcases ha : a.outcome s with ⟨_ | x, t⟩ <;> rw [ha] at this
  · exact id
  · exact this

/-- What an action leaves, whether it succeeds or fails, behind one that is sure to succeed. -/
theorem Triple.leaves {a : Act σ α} {f : α → Act σ β} {R : σ → Prop} {s : σ}
    (ha : Triple True P a Q) (hs : P s) (hf : ∀ x t, Q x t → R ((f x).outcome t).2) :
    R ((a >>= f).outcome s).2 := by
  obtain ⟨x, t, hr, ht⟩ := ha.exists_ok hs
  rw [outcome_bind_of_ok hr]
  exact hf x t ht

/-! ## Both outcomes

Where what a failure leaves matters as much as what a success leaves, each has a postcondition of
its own. The rules are those of triples, once for each side. -/

/-- From a state in `P` the action returns a value and leaves a state as `Q` says, or it fails and
leaves a state as `E` says. -/
def Outcomes (P : σ → Prop) (a : Act σ α) (Q : α → σ → Prop) (E : Failure → σ → Prop) : Prop :=
  ∀ s, P s → match a.outcome s with
    | (.ok x, t) => Q x t
    | (.error e, t) => E e t

variable {E E' : Failure → σ → Prop}

/-- What holds after a run that is known to succeed. -/
theorem Outcomes.ok {a : Act σ α} {s t : σ} {x : α} (h : Outcomes P a Q E) (hs : P s)
    (ha : a.outcome s = (.ok x, t)) : Q x t := by
  have := h s hs
  rw [ha] at this
  exact this

/-- What holds after a run that is known to fail. -/
theorem Outcomes.error {a : Act σ α} {s t : σ} {e : Failure} (h : Outcomes P a Q E) (hs : P s)
    (ha : a.outcome s = (.error e, t)) : E e t := by
  have := h s hs
  rw [ha] at this
  exact this

theorem Outcomes.pure {x : α} (h : ∀ s, P s → Q x s) : Outcomes P (pure x : Act σ α) Q E := h

theorem Outcomes.throw {e : Failure} (h : ∀ s, P s → E e s) :
    Outcomes P (throw e : Act σ α) Q E := h

theorem Outcomes.fail {f : Fault} (h : ∀ s, P s → E (.fault f) s) :
    Outcomes P (fail f : Act σ α) Q E := h

theorem Outcomes.modify {f : σ → σ} {Q : PUnit → σ → Prop} (h : ∀ s, P s → Q ⟨⟩ (f s)) :
    Outcomes P (modify f : Act σ PUnit) Q E := h

/-- What holds afterwards may be weakened on both sides. -/
theorem Outcomes.mono {a : Act σ α} (h : Outcomes P a Q E) (hQ : ∀ x s, Q x s → Q' x s)
    (hE : ∀ e s, E e s → E' e s) : Outcomes P a Q' E' := by
  intro s hs
  have := h s hs
  rcases ha : a.outcome s with ⟨e | x, t⟩ <;> rw [ha] at this
  · exact hE e t this
  · exact hQ x t this

/-- A failure of either step is one of both; only after a success does the second one run. -/
theorem Outcomes.bind {a : Act σ α} {f : α → Act σ β} {R : β → σ → Prop} (ha : Outcomes P a Q E)
    (hf : ∀ x, Outcomes (Q x) (f x) R E) : Outcomes P (a >>= f) R E := by
  intro s hs
  have h := ha s hs
  rcases hr : a.outcome s with ⟨e | x, t⟩ <;> rw [hr] at h
  · rw [outcome_bind_of_error hr]
    exact h
  · rw [outcome_bind_of_ok hr]
    exact hf x t h

/-- What holds from a set of states holds from each of them. -/
theorem Outcomes.of_eq {a : Act σ α} {s : σ} (h : Outcomes P a Q E) (hs : P s) :
    Outcomes (· = s) a Q E := by
  rintro _ rfl
  exact h _ hs

/-- An action that starts by looking at the state may use what it sees. -/
theorem Outcomes.bind_get {f : σ → Act σ β} {R : β → σ → Prop}
    (hf : ∀ s, P s → Outcomes (· = s) (f s) R E) : Outcomes P (MonadState.get >>= f) R E := by
  intro s hs
  rw [outcome_bind, outcome_get]
  exact hf s hs s rfl

/-- Looking at an outcome shows which of the two it was. -/
theorem Outcomes.attempt {a : Act σ α} (h : Outcomes P a Q E) :
    Outcomes P a.attempt (fun r s => match r with
      | .ok x => Q x s
      | .error e => E e s) E' := by
  intro s hs
  have := h s hs
  rw [outcome_attempt]
  rcases ha : a.outcome s with ⟨e | x, t⟩ <;> rw [ha] at this
  · exact this
  · exact this

/-- What does not speak of the value holds without it. -/
theorem Outcomes.discard {a : Act σ α} {Q : σ → Prop} (h : Outcomes P a (fun _ => Q) E) :
    Outcomes P (discard a : Act σ PUnit) (fun _ => Q) E := by
  intro s hs
  have := h s hs
  rw [outcome_discard]
  rcases ha : a.outcome s with ⟨e | x, t⟩ <;> rw [ha] at this
  · exact this
  · exact this

/-- What an action keeps it keeps on both outcomes. -/
theorem Keeps.outcomes {a : Act σ α} (h : Keeps P a) :
    Outcomes P a (fun _ => P) fun _ => P := by
  intro s hs
  have := h s hs
  rcases ha : a.outcome s with ⟨e | x, t⟩ <;> rw [ha] at this
  · exact this
  · exact this

/-- What is left on both outcomes is kept. -/
theorem Outcomes.keeps {a : Act σ α} (h : Outcomes P a (fun _ => P) fun _ => P) : Keeps P a := by
  intro s hs
  have := h s hs
  rcases ha : a.outcome s with ⟨e | x, t⟩ <;> rw [ha] at this
  · exact this
  · exact this

end CodeCatalog.Act
