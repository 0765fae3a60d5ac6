/-
Two runs of one action, from states that differ in what does not count.

`Parallel R` says of an action that from related states it returns the same and leaves related states,
on success and on failure. Like the invariants it passes through sequences step by step, and an action
that looks at the state may use what both states have in common. The rules hold for actions with any
kind of error. A change of the state that an action does not notice (`Act.Unaware`) is one such relation.
-/
import CodeCatalog.Proofs.Act

set_option autoImplicit false

namespace CodeCatalog

variable {ε σ τ α β : Type}

/-! ## Sequences

The same equations as for actions, for any kind of error. An invocation ends by an ending and not by
a failure, so it needs them in this form. -/

/-- The steps of a sequence run one after the other, and the first error ends it. -/
theorem run_bind (a : ExceptT ε (StateM σ) α) (f : α → ExceptT ε (StateM σ) β) (s : σ) :
    (a >>= f).run.run s = match a.run.run s with
      | (.ok x, t) => (f x).run.run t
      | (.error e, t) => (.error e, t) := by
  show (ExceptT.bind a f).run.run s = _
  unfold ExceptT.bind
  simp only [ExceptT.run, ExceptT.mk, StateT.run, bind, StateT.bind]
  rcases h : a s with ⟨r, t⟩
  cases r <;> rfl

theorem run_bind_of_ok {a : ExceptT ε (StateM σ) α} {f : α → ExceptT ε (StateM σ) β} {s t : σ}
    {x : α} (h : a.run.run s = (.ok x, t)) : (a >>= f).run.run s = (f x).run.run t := by
  rw [run_bind, h]

theorem run_bind_of_error {a : ExceptT ε (StateM σ) α} {f : α → ExceptT ε (StateM σ) β} {s t : σ}
    {e : ε} (h : a.run.run s = (.error e, t)) : (a >>= f).run.run s = (.error e, t) := by
  rw [run_bind, h]

/-- A step whose value is not asked for leaves the same. -/
theorem run_discard (a : ExceptT ε (StateM σ) α) (s : σ) :
    (discard a : ExceptT ε (StateM σ) PUnit).run.run s =
      ((a.run.run s).1.map fun _ => ⟨⟩, (a.run.run s).2) := by
  show (ExceptT.map (fun _ => PUnit.unit) a).run.run s = _
  unfold ExceptT.map
  simp only [ExceptT.run, ExceptT.mk, StateT.run, bind, StateT.bind]
  rcases h : a s with ⟨r, t⟩
  cases r <;> rfl

/-! ## Parallel runs

Two runs from related states, step by step. Since both return the same, the next step is the same
action on both sides, and only the states differ. -/

/-- **Parallel runs.** From related states the action returns the same and leaves related states. -/
def Parallel (R : σ → σ → Prop) (a : ExceptT ε (StateM σ) α) : Prop :=
  ∀ s t, R s t → (a.run.run s).1 = (a.run.run t).1 ∧ R (a.run.run s).2 (a.run.run t).2

namespace Parallel

variable {R : σ → σ → Prop}

theorem pure (x : α) : Parallel R (pure x : ExceptT ε (StateM σ) α) := fun _ _ h => ⟨rfl, h⟩

theorem throw (e : ε) : Parallel R (throw e : ExceptT ε (StateM σ) α) := fun _ _ h => ⟨rfl, h⟩

/-- What runs parallel in each of some relations does so in their union. -/
theorem union {ι : Type} {R : ι → σ → σ → Prop} {a : ExceptT ε (StateM σ) α}
    (ha : ∀ i, Parallel (R i) a) : Parallel (fun s t => ∃ i, R i s t) a := by
  rintro s t ⟨i, h⟩
  obtain ⟨hvalue, hstate⟩ := ha i s t h
  exact ⟨hvalue, i, hstate⟩

theorem modify {f : σ → σ} (hf : ∀ s t, R s t → R (f s) (f t)) :
    Parallel R (modify f : ExceptT ε (StateM σ) PUnit) := fun s t h => ⟨rfl, hf s t h⟩

/-- What follows may count on what is known of the values that are returned. -/
theorem bind_of {V : α → Prop} {a : ExceptT ε (StateM σ) α} {f : α → ExceptT ε (StateM σ) β}
    (ha : Parallel R a) (hvalue : ∀ s t x s', R s t → a.run.run s = (.ok x, s') → V x)
    (hf : ∀ x, V x → Parallel R (f x)) : Parallel R (a >>= f) := by
  intro s t h
  obtain ⟨hsame, hstate⟩ := ha s t h
  rw [run_bind, run_bind]
  rcases hs : a.run.run s with ⟨r, s'⟩
  rcases ht : a.run.run t with ⟨r', t'⟩
  rw [hs, ht] at hsame hstate
  obtain rfl : r = r' := hsame
  -- both runs fail with the same error, or both go on with the same value
  rcases r with e | x
  · exact ⟨rfl, hstate⟩
  · exact hf x (hvalue s t x s' h hs) s' t' hstate

theorem bind {a : ExceptT ε (StateM σ) α} {f : α → ExceptT ε (StateM σ) β} (ha : Parallel R a)
    (hf : ∀ x, Parallel R (f x)) : Parallel R (a >>= f) :=
  ha.bind_of (fun _ _ _ _ _ _ => trivial) fun x _ => hf x

/-- What is seen of the state must be what both states have in common. -/
theorem bind_get {f : σ → ExceptT ε (StateM σ) β} (hsees : ∀ s t, R s t → f s = f t)
    (hf : ∀ s, Parallel R (f s)) : Parallel R (MonadState.get >>= f) := by
  intro s t h
  show ((f s).run.run s).1 = ((f t).run.run t).1 ∧ R ((f s).run.run s).2 ((f t).run.run t).2
  rw [← hsees s t h]
  exact hf s s t h

/-- A value that is thrown away was the same on both sides. -/
theorem discard {a : ExceptT ε (StateM σ) α} (ha : Parallel R a) :
    Parallel R (discard a : ExceptT ε (StateM σ) PUnit) := by
  intro s t h
  obtain ⟨hvalue, hstate⟩ := ha s t h
  rw [run_discard, run_discard, hvalue]
  exact ⟨rfl, hstate⟩

/-- The condition does not depend on the state, so both sides take the same way. -/
theorem ite {c : Prop} [Decidable c] {a b : ExceptT ε (StateM σ) α} (ha : Parallel R a)
    (hb : Parallel R b) : Parallel R (if c then a else b) := by
  split
  · exact ha
  · exact hb

/-- A loop that stops early stops on both sides at the same place. -/
theorem forIn {xs : List β} {f : β → PUnit → ExceptT ε (StateM σ) (ForInStep PUnit)}
    (hf : ∀ x, Parallel R (f x ⟨⟩)) : Parallel R (forIn xs ⟨⟩ f) := by
  induction xs with
  | nil => exact Parallel.pure _
  | cons x xs ih =>
    rw [List.forIn_cons]
    refine (hf x).bind fun step => ?_
    -- a step that is done leaves the other items out
    rcases step with _ | _
    · exact Parallel.pure _
    · exact ih

/-! ### Actions

The rules for what actions have besides sequences: failures that are looked at, and parts of states.
-/

theorem refuse (e : CatalogError) : Parallel R (Act.refuse e : Act σ α) := throw _

theorem fail (f : Fault) : Parallel R (Act.fail f : Act σ α) := throw _

/-- What is only computed is the same on both sides. -/
theorem ofFault (r : Except Fault α) : Parallel R (Act.ofFault r : Act σ α) := by
  rcases r with f | x
  · exact fail f
  · exact pure x

/-- A failure that is looked at is the same failure on both sides. -/
theorem attempt {a : Act σ α} (ha : Parallel R a) : Parallel R a.attempt := by
  intro s t h
  obtain ⟨hvalue, hstate⟩ := ha s t h
  exact ⟨congrArg Except.ok hvalue, hstate⟩

/-- An action on a part runs in parallel if related states have related parts, and stay related with
related parts put back. -/
theorem onPart {get : τ → σ} {set : τ → σ → τ} {S : τ → τ → Prop} {a : Act σ α}
    (ha : Parallel R a) (hget : ∀ s t, S s t → R (get s) (get t))
    (hset : ∀ s t x y, S s t → R x y → S (set s x) (set t y)) : Parallel S (a.onPart get set) := by
  intro s t h
  obtain ⟨hvalue, hstate⟩ := ha _ _ (hget s t h)
  exact ⟨hvalue, hset s t _ _ h hstate⟩

end Parallel

namespace Act

/-- The action does not notice a change of the state: it does the same before and after it. -/
def Unaware (g : σ → σ) (a : Act σ α) : Prop :=
  ∀ s, a.outcome (g s) = ((a.outcome s).1, g (a.outcome s).2)

/-- A change that the action does not notice is a relation through which it runs parallel. -/
theorem unaware_iff {g : σ → σ} {a : Act σ α} :
    Unaware g a ↔ Parallel (fun s t => t = g s) a := by
  constructor
  · rintro h s _ rfl
    exact ⟨(congrArg Prod.fst (h s)).symm, congrArg Prod.snd (h s)⟩
  · intro h s
    obtain ⟨hvalue, hstate⟩ := h s (g s) rfl
    exact Prod.ext hvalue.symm hstate

end Act

end CodeCatalog
