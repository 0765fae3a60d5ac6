/-
What is found in nested tables of which one is laid over the other.

A way leads through tables to a datum. Where two nested tables are laid over each other, a way ends
at a value just if it ends there in the upper one, or it does in the lower one and the upper one
neither has anything there nor a value in the way (`at?_merge`). The proof takes the first step
of the way in both tables at once: what stands under a key is either found in one of them alone, or
two tables meet and are laid over each other in turn. The algebraic laws follow from one fact about
entries that bring nothing new (`mergeOver_of_kept`).
-/
import CodeCatalog.Proofs.Settings.Merge

set_option autoImplicit false

namespace CodeCatalog

namespace Entries

variable {entries : Entries} {key : Scalar} {v : Datum}

instance (entries : Entries) : Decidable entries.Distinct :=
  inferInstanceAs (Decidable (List.Pairwise _ _))

/-- What is put where it is already changes nothing. -/
theorem put_of_get? (h : entries.get? key = some v) : entries.put key v = entries := by
  induction entries with
  | nil => exact absurd h nofun
  | cons e entries ih =>
    rw [get?_cons] at h
    rw [put]
    split_ifs at h ⊢ with hsame
    · rw [← Option.some.inj h]
    · rw [ih h]

/-- What is put under a new key stands at the end. -/
theorem put_of_none (h : entries.get? key = none) : entries.put key v = entries ++ [(key, v)] := by
  induction entries with
  | nil => rfl
  | cons e entries ih =>
    rw [get?_cons] at h
    rw [put]
    split_ifs at h ⊢ with hsame
    rw [ih h, List.cons_append]

/-- Each entry of a table is what is found under its key. -/
theorem Distinct.get?_of_mem {e : Scalar × Datum} (h : entries.Distinct) (he : e ∈ entries) :
    entries.get? e.1 = some e.2 := by
  induction entries with
  | nil => exact absurd he List.not_mem_nil
  | cons e' entries ih =>
    rw [get?_cons]
    rcases List.mem_cons.mp he with rfl | hrest
    · rw [if_pos (Scalar.sameKey_self _)]
    · have hother := (List.pairwise_cons.mp h).1 e hrest
      rw [if_neg (Bool.eq_false_iff.mp hother), ih (List.pairwise_cons.mp h).2 hrest]

theorem exists_of_get? (h : entries.get? key = some v) : ∃ e ∈ entries, e.2 = v := by
  obtain ⟨e, hfound, hv⟩ := Option.map_eq_some_iff.mp h
  exact ⟨e, List.mem_of_find?_eq_some hfound, hv⟩

end Entries

namespace Datum

open Entries

variable {d base top v : Datum} {b t : Entries} {way : List Scalar}

/-! ## Nested tables

A nested datum has tables inside of tables, with each key once, and values that are no tables at the
ends. Only of such data can one speak of the value at a way. -/

/-- A table of tables and values, to any depth: each key stands once in its table. What is no table
is a value, whatever is in it; it has no label of its own. -/
inductive Nested : Datum → Prop
  | value {d : Datum} (hvalue : d.isTable = false) (hbare : d.bare = d) : Nested d
  | table {entries : Entries} (hkeys : entries.Distinct) (hvalues : ∀ e ∈ entries, Nested e.2) :
    Nested (.table entries)

/-- A value is no table, with or without a label. -/
theorem bare_ne_table : ∀ {d : Datum}, d.isTable = false → ∀ es, d.bare ≠ .table es
  | .knot _ d, hvalue, es => bare_ne_table (d := d) hvalue es
  | .table _, hvalue, _ => absurd hvalue nofun
  | .scalar _, _, _ | .list _, _, _ | .pair _ _, _, _ | .set _, _, _ | .again _, _, _ => nofun

/-- A table in a nested one is nested. -/
theorem Nested.get? (h : (Datum.table t).Nested) {key : Scalar}
    (hv : Entries.get? t key = some v) :
    v.Nested := by
  cases h with
  | value hvalue => exact absurd hvalue nofun
  | table _ hvalues =>
    obtain ⟨e, he, rfl⟩ := exists_of_get? hv
    exact hvalues e he

/-- No key stands twice at the top of a nested table. -/
theorem Nested.distinct (h : (Datum.table t).Nested) : t.Distinct := by
  cases h with
  | value hvalue => exact absurd hvalue nofun
  | table hkeys => exact hkeys

/-- A nested datum is a table or a value. -/
theorem Nested.cases (h : d.Nested) :
    (∃ es, d = .table es) ∨ d.isTable = false ∧ ∀ es, d.bare ≠ .table es := by
  cases h with
  | value hvalue => exact .inr ⟨hvalue, bare_ne_table hvalue⟩
  | table => exact .inl ⟨_, rfl⟩

/-- Whatever a value is laid over, it stays what it is. -/
theorem merge_value (hvalue : d.isTable = false) (hbare : d.bare = d) (base : Datum) :
    merge base d = d := by
  rcases base.isTable_or with ⟨b, hb⟩ | hb
  · rw [merge_over_table hb (bare_ne_table hvalue), hbare]
  · exact merge_of_not_table hb

/-- Where not two tables meet, the upper datum stays what it is. -/
theorem merge_of_value (htop : top.Nested) (h : base.isTable = false ∨ top.isTable = false)
    (hbase : base.Nested) : merge base top = top := by
  cases htop with
  | value hvalue hbare => exact merge_value hvalue hbare base
  | table =>
    rcases hbase.cases with ⟨b, rfl⟩ | ⟨-, hvalue⟩
    · exact absurd h (by rintro (h | h) <;> exact absurd h nofun)
    · exact merge_of_not_table hvalue

/-! ## Ways

A way is a list of keys. Along it two data laid over each other have the upper value where there is
one, and the lower value only where nothing above is in the way. -/

/-- The datum that a way leads to through tables. -/
def at? : (way : List Scalar) → Datum → Option Datum
  | [], d => some d
  | key :: way, .table entries => (Entries.get? entries key).bind (at? way)
  | _ :: _, _ => none

/-- No value is in the way, before its end. -/
def Clear (way : List Scalar) (d : Datum) : Prop :=
  ∀ front, front <+: way → front ≠ way → ∀ v, d.at? front = some v → v.isTable = true

theorem at?_cons (key : Scalar) (way : List Scalar) (es : Entries) :
    (Datum.table es).at? (key :: way) = (es.get? key).bind (at? way) := rfl

/-- There is nothing behind a value. -/
theorem at?_of_value (hvalue : d.isTable = false) (key : Scalar) (way : List Scalar) :
    d.at? (key :: way) = none := by
  cases d with
  | table => exact absurd hvalue nofun
  | _ => rfl

/-- A value is in every way that goes on. -/
theorem not_clear_of_value (hvalue : d.isTable = false) (key : Scalar) (way : List Scalar) :
    ¬ Clear (key :: way) d := by
  intro h
  have htable := h [] List.nil_prefix (List.cons_ne_nil key way).symm d rfl
  rw [hvalue] at htable
  exact absurd htable nofun

/-- A way through a table is clear if the rest of it is, behind its first step. -/
theorem clear_cons (key : Scalar) (way : List Scalar) (es : Entries) :
    Clear (key :: way) (.table es) ↔ ∀ w, es.get? key = some w → Clear way w := by
  -- a way is clear if nothing but tables stands on it; the first step is taken off the way and off
  -- each of its fronts
  constructor
  · intro h w hw front hfront hne v hv
    apply h (key :: front)
    · exact List.cons_prefix_cons.mpr ⟨rfl, hfront⟩
    · intro heq
      exact hne (List.cons.inj heq).2
    · rw [at?_cons, hw]
      exact hv
  · intro h front hfront hne v hv
    cases front with
    | nil =>
      rw [← Option.some.inj hv]
      rfl
    | cons k front =>
      obtain ⟨rfl, hrest⟩ := List.cons_prefix_cons.mp hfront
      obtain ⟨w, hw, hend⟩ := Option.bind_eq_some_iff.mp hv
      apply h w hw front hrest _ v hend
      rintro rfl
      exact hne rfl

/-- **What is found in data over each other**: the value that the upper one has at the end of the
way, or else that of the lower one, unless the upper one has anything there or a value in the way.
-/
theorem at?_merge (hbase : base.Nested) (htop : top.Nested) (hv : v.isTable = false) :
    (merge base top).at? way = some v ↔
      top.at? way = some v ∨
        base.at? way = some v ∧ top.at? way = none ∧ Clear way top := by
  induction way generalizing base top with
  | nil =>
    -- at the end of the way both are there, so the lower one is covered
    have hcovered : ¬ (base.at? [] = some v ∧ top.at? [] = none ∧ Clear [] top) :=
      fun h => absurd h.2.1 nofun
    rw [or_iff_left hcovered]
    by_cases hvalue : base.isTable = false ∨ top.isTable = false
    · rw [merge_of_value htop hvalue hbase]
    · rw [not_or] at hvalue
      obtain ⟨b, rfl⟩ := hbase.cases.resolve_right fun h => hvalue.1 h.1
      obtain ⟨t, rfl⟩ := htop.cases.resolve_right fun h => hvalue.2 h.1
      rw [merge_tables rfl rfl]
      apply iff_of_false
      · intro h
        rw [← Option.some.inj h] at hv
        exact absurd hv nofun
      · intro h
        rw [← Option.some.inj h] at hv
        exact absurd hv nofun
  | cons key way ih =>
    by_cases hvalue : base.isTable = false ∨ top.isTable = false
    · -- the lower one has nothing on this way, or the upper one has a value in it
      rw [merge_of_value htop hvalue hbase, or_iff_left]
      rintro ⟨hfound, -, hclear⟩
      rcases hvalue with hvalue | hvalue
      · rw [at?_of_value hvalue] at hfound
        exact absurd hfound nofun
      · exact not_clear_of_value hvalue key way hclear
    · rw [not_or] at hvalue
      obtain ⟨b, rfl⟩ := hbase.cases.resolve_right fun h => hvalue.1 h.1
      obtain ⟨t, rfl⟩ := htop.cases.resolve_right fun h => hvalue.2 h.1
      rw [merge_tables rfl rfl, at?_cons, at?_cons, at?_cons, clear_cons,
        get?_mergeOver b htop.distinct]
      cases ht : Entries.get? t key with
      | none =>
        simp
      | some w =>
        cases hb : Entries.get? b key with
        | none =>
          simp [laid]
        | some u =>
          have hmeet := ih (hbase.get? hb) (htop.get? ht)
          simpa [laid] using hmeet

/-! ## Laws

The laws that follow: empty tables change nothing, the same table again changes nothing, and layers
can be grouped. -/

/-- **Entries that bring nothing new** change nothing, whatever tables they hold. -/
theorem mergeOver_of_kept (h : ∀ e ∈ t, ∃ old, Entries.get? b e.1 = some old ∧ merge old e.2 = old) :
    mergeOver b t = b := by
  induction t with
  | nil => rfl
  | cons e t ih =>
    obtain ⟨old, hold, hkept⟩ := h e List.mem_cons_self
    rw [mergeOver_cons, hold]
    show mergeOver (b.put e.1 (merge old e.2)) t = b
    rw [hkept, put_of_get? hold]
    apply ih
    intro e' he'
    exact h e' (List.mem_cons_of_mem e he')

/-- Entries with new keys follow those that are there. -/
theorem mergeOver_of_new (h : Entries.Distinct (b ++ t)) : mergeOver b t = b ++ t := by
  induction t generalizing b with
  | nil => exact (List.append_nil b).symm
  | cons e t ih =>
    have hsplit : b ++ e :: t = b ++ [e] ++ t := by rw [List.append_assoc, List.singleton_append]
    -- the key comes again nowhere, and the base does not have it
    have hnew : b.get? e.1 = none := by
      rw [Entries.get?, Option.map_eq_none_iff, List.find?_eq_none]
      intro e' he' hsame
      have hother := (List.pairwise_append.mp h).2.2 e' he' e List.mem_cons_self
      exact Bool.false_ne_true (hother.symm.trans hsame)
    rw [mergeOver_cons, hnew, put_of_none hnew, hsplit]
    apply ih
    rw [hsplit] at h
    exact h

/-- Nothing at all below a table adds nothing to it. -/
theorem mergeOver_empty (h : t.Distinct) : mergeOver [] t = t := mergeOver_of_new h

/-- A datum laid over itself is that datum. -/
theorem merge_self (h : d.Nested) : merge d d = d := by
  induction h with
  | value hvalue => exact merge_of_not_table (bare_ne_table hvalue)
  | table hkeys hvalues ih =>
    rw [merge_tables rfl rfl, mergeOver_of_kept]
    intro e he
    exact ⟨e.2, hkeys.get?_of_mem he, ih e he⟩

/-- Laying a datum over another one a second time changes nothing. -/
theorem merge_merge (htop : top.Nested) : ∀ {base : Datum}, base.Nested →
    merge (merge base top) top = merge base top := by
  induction htop with
  | value hvalue hbare =>
    intro base _
    rw [merge_value hvalue hbare, merge_value hvalue hbare]
  | @table t hkeys hvalues ih =>
    intro base hbase
    have htable : (Datum.table t).Nested := .table hkeys hvalues
    rcases hbase.cases with ⟨b, rfl⟩ | ⟨hvalue, -⟩
    · rw [merge_tables rfl rfl, merge_tables rfl rfl, mergeOver_of_kept]
      intro e he
      refine ⟨laid (Entries.get? b e.1) e.2, ?_, ?_⟩
      · rw [get?_mergeOver b hkeys, hkeys.get?_of_mem he]
      · -- what the lower table has under the key is covered, or nothing is there
        cases hb : Entries.get? b e.1 with
        | none => exact merge_self (hvalues e he)
        | some u => exact ih e he (hbase.get? hb)
    · rw [merge_of_value htable (.inl hvalue) hbase, merge_self htable]

end Datum

end CodeCatalog
