/-
Tables as maps from keys to data, and one table laid over another.

Keys that are numerically equal are one key, so a table is a map only up to `Scalar.sameKey`, and
only if no key stands twice in it (`Entries.Distinct`). Of such tables the upper one decides: what
it has under a key is laid over what the lower one has there, and only a key that it does not have
is looked up below it (`Datum.get?_mergeOver`).
-/
import CodeCatalog.Settings.Datum
import Mathlib.Tactic

set_option autoImplicit false

namespace CodeCatalog

/-! ## Keys

Numbers that are equal are one key whatever their type, so keys are compared by the form that they
come to. Tables in which no key stands twice are maps up to this. -/

namespace Scalar

variable {a b : Scalar}

theorem sameKey_iff : a.sameKey b = true ↔ a.keyForm = b.keyForm := decide_eq_true_iff

theorem sameKey_self (a : Scalar) : a.sameKey a = true := sameKey_iff.mpr rfl

/-- Keys that are one key are the same as the same ones. -/
theorem sameKey_congr (h : a.sameKey b = true) (c : Scalar) : a.sameKey c = b.sameKey c := by
  rw [sameKey, sameKey, sameKey_iff.mp h]

theorem sameKey_comm (a b : Scalar) : a.sameKey b = b.sameKey a :=
  decide_eq_decide.mpr eq_comm

/-- Only a text comes to the form of a text. -/
theorem keyForm_eq_text {s : String} (h : a.keyForm = .text s) : a = .text s := by
  cases a with
  | bool b => exact absurd h nofun
  | real x =>
    rw [keyForm] at h
    split at h <;> exact absurd h nofun
  | _ => exact h

/-- A text is one key with itself alone. -/
theorem sameKey_text {s : String} : a.sameKey (.text s) = true ↔ a = .text s :=
  ⟨fun h => keyForm_eq_text (sameKey_iff.mp h), fun h => h ▸ sameKey_self _⟩

end Scalar

namespace Entries

variable {entries : Entries} {key k : Scalar} {v : Datum}

/-- A key is looked up in the first entry, and below it if that entry has another one. -/
theorem get?_cons (e : Scalar × Datum) (entries : Entries) (key : Scalar) :
    get? (e :: entries) key = if e.1.sameKey key then some e.2 else entries.get? key := by
  rw [get?, List.find?_cons]
  split <;> simp [*, get?]

theorem get?_congr (entries : Entries) (h : key.sameKey k = true) :
    entries.get? key = entries.get? k := by
  simp only [get?, Scalar.sameKey_comm _ key, Scalar.sameKey_comm _ k, Scalar.sameKey_congr h]

/-- What is put under a key is found there, and nothing else changes. -/
theorem get?_put (entries : Entries) (key : Scalar) (v : Datum) (k : Scalar) :
    (entries.put key v).get? k = if key.sameKey k then some v else entries.get? k := by
  induction entries with
  | nil => exact get?_cons (key, v) [] k
  | cons e entries ih =>
    obtain ⟨k', v'⟩ := e
    rw [put]
    -- the key is written where the same key stands already, else behind the last entry
    split
    · rename_i hsame
      rw [get?_cons, get?_cons, Scalar.sameKey_congr hsame]
      split <;> rfl
    · rename_i hother
      rw [get?_cons, get?_cons, ih]
      split
      · rename_i hk
        rw [if_neg]
        intro hkey
        exact hother (Scalar.sameKey_congr hk key ▸ Scalar.sameKey_comm k key ▸ hkey)
      · rfl

theorem has_eq_isSome (entries : Entries) (key : Scalar) :
    entries.has key = (entries.get? key).isSome := by
  rw [has, get?, Option.isSome_map, Bool.eq_iff_iff, List.find?_isSome, List.any_eq_true]

/-- No key stands twice. -/
def Distinct (entries : Entries) : Prop :=
  entries.Pairwise fun a b => a.1.sameKey b.1 = false

/-- Below an entry its key is not found again. -/
theorem Distinct.get?_rest {e : Scalar × Datum} (h : Distinct (e :: entries))
    (hsame : e.1.sameKey key = true) : entries.get? key = none := by
  rw [get?, Option.map_eq_none_iff, List.find?_eq_none]
  intro e' he' hkey
  have hother : e.1.sameKey e'.1 = false := (List.pairwise_cons.mp h).1 e' he'
  rw [Scalar.sameKey_congr hsame, Scalar.sameKey_comm, hkey] at hother
  exact absurd hother nofun

/-- What is found under a name stands there under that very name, since a text is one key with
itself alone. -/
theorem mem_of_find? {name : String} (h : entries.find? name = some v) :
    (Scalar.text name, v) ∈ entries := by
  obtain ⟨e, he, rfl⟩ := Option.map_eq_some_iff.mp h
  have hsame := List.find?_some he
  exact Scalar.sameKey_text.mp hsame ▸ List.mem_of_find?_eq_some he

/-- What is in a table after something was put into it. -/
theorem mem_put {e : Scalar × Datum} (h : e ∈ entries.put key v) :
    e ∈ entries ∨ e.2 = v ∧ (e.1 = key ∨ ∃ e' ∈ entries, e'.1 = e.1) := by
  induction entries with
  | nil => exact .inr (List.mem_singleton.mp h ▸ ⟨rfl, .inl rfl⟩)
  | cons e' entries ih =>
    -- the entry is the written one, which keeps the spelling of the key that was there, or one of
    -- the others
    rw [put] at h
    split at h
    · rcases List.mem_cons.mp h with rfl | he
      · exact .inr ⟨rfl, .inr ⟨e', List.mem_cons_self, rfl⟩⟩
      · exact .inl (List.mem_cons_of_mem _ he)
    · rcases List.mem_cons.mp h with rfl | he
      · exact .inl List.mem_cons_self
      · refine (ih he).imp (List.mem_cons_of_mem _) fun ⟨hv, hkey⟩ => ⟨hv, hkey.imp_right ?_⟩
        rintro ⟨e'', he'', heq⟩
        exact ⟨e'', List.mem_cons_of_mem _ he'', heq⟩

/-- A key that is put does not stand twice: it takes its old place if it has one. -/
theorem Distinct.put (h : entries.Distinct) (key : Scalar) (v : Datum) :
    (entries.put key v).Distinct := by
  induction entries with
  | nil => exact List.pairwise_singleton _ _
  | cons e entries ih =>
    obtain ⟨hfirst, hrest⟩ := List.pairwise_cons.mp h
    rw [Entries.put]
    split
    · exact List.pairwise_cons.mpr ⟨hfirst, hrest⟩
    · rename_i hother
      refine List.pairwise_cons.mpr ⟨fun e' he' => ?_, ih hrest⟩
      -- an entry behind this one is an old one, or has a key of the same form as an old one
      rcases mem_put he' with he' | ⟨-, rfl | ⟨e'', he'', heq⟩⟩
      · exact hfirst e' he'
      · exact Bool.eq_false_iff.mpr hother
      · exact heq ▸ hfirst e'' he''

end Entries

namespace Datum

open Entries

variable {d base top : Datum} {b t : Entries}

/-! ## Labels

Data that was read may carry labels, by which a part refers to another one. A label is looked
through wherever the content counts, and laying over must not lose or misplace one. -/

@[simp] theorem bare_bare : ∀ d : Datum, d.bare.bare = d.bare
  | .knot _ d => bare_bare d
  | .scalar _ | .list _ | .table _ | .pair _ _ | .set _ | .again _ => rfl

/-- A label does not stand on a single value. -/
def Tied (d : Datum) : Prop :=
  ∀ s, d.bare = .scalar s → d = .scalar s

theorem tied_bare (d : Datum) : d.bare.Tied :=
  fun _ hs => (bare_bare d).symm.trans hs

theorem tied_scalar (s : Scalar) : (scalar s).Tied := fun _ h => h

/-- A datum as it can be read or given: in every table within it each key stands once, and labels
stand on lists and tables alone. -/
inductive Sound : Datum → Prop
  | scalar (s : Scalar) : Sound (.scalar s)
  | list {items : List Datum} (hitems : ∀ d ∈ items, Sound d) : Sound (.list items)
  | table {entries : Entries} (hkeys : entries.Distinct) (hvalues : ∀ e ∈ entries, Sound e.2) :
    Sound (.table entries)
  | pair {first second : Datum} (hfirst : Sound first) (hsecond : Sound second) :
    Sound (.pair first second)
  | set (members : List Scalar) : Sound (.set members)
  | knot {label : Nat} {d : Datum} (htied : (Datum.knot label d).Tied) (hd : Sound d) :
    Sound (.knot label d)
  | again (isTable : Bool) : Sound (.again isTable)

/-- A sound datum stays sound without its labels. -/
theorem Sound.bare (h : d.Sound) : d.bare.Sound := by
  induction h with
  | knot _ _ ih => exact ih
  | scalar s => exact .scalar s
  | list hitems => exact .list hitems
  | table hkeys hvalues => exact .table hkeys hvalues
  | pair hfirst hsecond => exact .pair hfirst hsecond
  | set members => exact .set members
  | again isTable => exact .again isTable

/-- In a sound datum no label stands on a single value. -/
theorem Sound.tied (h : d.Sound) : d.Tied := by
  cases h with
  | knot htied => exact htied
  | scalar s => exact tied_scalar s
  | list | table | pair | set | again => exact nofun

/-! ## Data over each other

Two tables are laid over each other key by key; in every other case the upper datum takes the place
of the lower one. -/

/-- Over anything but a table a datum stays what it is. -/
theorem merge_of_not_table (hbase : ∀ es, base.bare ≠ .table es) : merge base top = top := by
  cases top with
  | table t =>
    rw [merge]
    split
    · rename_i b hb
      exact absurd hb (hbase b)
    · rfl
  | knot label t =>
    rw [merge]
    split
    · rename_i b hb
      exact absurd hb (hbase b)
    · rfl
  | _ => rw [merge] <;> exact nofun

/-- A table over a table is laid over it key by key. -/
theorem merge_tables (hbase : base.bare = .table b) :
    ∀ {top : Datum}, top.bare = .table t → merge base top = .table (mergeOver b t)
  | .table t', htop => by
    obtain rfl := Datum.table.inj htop
    rw [merge, hbase]
  | .knot _ top, htop => by
    rw [merge, hbase]
    exact merge_tables hbase htop
  | .scalar _, htop | .list _, htop | .pair _ _, htop | .set _, htop | .again _, htop =>
    absurd htop nofun

/-- Anything else over a table loses no more than its label. -/
theorem merge_over_table (hbase : base.bare = .table b) :
    ∀ {top : Datum}, (∀ es, top.bare ≠ .table es) → merge base top = top.bare
  | .table t, htop => absurd rfl (htop t)
  | .knot _ top, htop => by
    rw [merge, hbase]
    exact merge_over_table hbase htop
  | .scalar _, _ | .list _, _ | .pair _ _, _ | .set _, _ | .again _, _ => by
    rw [merge]
    · rfl
    · exact nofun
    · exact nofun

/-- Below its labels a datum is a table or is none; each merge is decided by that. -/
theorem isTable_or (d : Datum) : (∃ es, d.bare = .table es) ∨ ∀ es, d.bare ≠ .table es := by
  cases hd : d.bare with
  | table es => exact .inl ⟨es, rfl⟩
  | _ => exact .inr nofun

/-- Laying over puts no label on a single value. -/
theorem Tied.merge (htop : top.Tied) (base : Datum) : (Datum.merge base top).Tied := by
  rcases base.isTable_or with ⟨b, hb⟩ | hbase
  · rcases top.isTable_or with ⟨t, ht⟩ | ht
    · rw [merge_tables hb ht]
      exact nofun
    · rw [merge_over_table hb ht]
      exact tied_bare top
  · rwa [merge_of_not_table hbase]

/-- A datum over what is there, if anything is. -/
def laid (old : Option Datum) (d : Datum) : Datum :=
  old.elim d (merge · d)

/-- The rows of the upper table are laid one after the other. -/
theorem mergeOver_cons (base : Entries) (key : Scalar) (v : Datum) (top : Entries) :
    mergeOver base ((key, v) :: top) =
      mergeOver (base.put key (laid (base.get? key) v)) top := by
  rw [mergeOver]
  rcases base.get? key with _ | old <;> rfl

/-- **One table over another**: a key that the upper one has is found there, laid over what the
lower one has under it; any other key is found in the lower one. -/
theorem get?_mergeOver (base : Entries) {top : Entries} (htop : top.Distinct) (key : Scalar) :
    Entries.get? (mergeOver base top) key = match top.get? key with
      | some v => some (laid (base.get? key) v)
      | none => base.get? key := by
  induction top generalizing base with
  | nil => rfl
  | cons e top ih =>
    obtain ⟨k, v⟩ := e
    -- the first entry is in the lower table when the rest is laid over it, and stays as it is
    -- there, because its key does not stand in the rest
    rw [mergeOver_cons, ih _ (List.pairwise_cons.mp htop).2, get?_cons, get?_put]
    by_cases hsame : k.sameKey key = true
    · rw [htop.get?_rest hsame, if_pos hsame, if_pos hsame, get?_congr base hsame]
    · rw [if_neg hsame, if_neg hsame]

/-- Laying over adds no key twice. -/
theorem distinct_mergeOver {base : Entries} (hbase : base.Distinct) (top : Entries) :
    Entries.Distinct (mergeOver base top) := by
  induction top generalizing base with
  | nil => exact hbase
  | cons e top ih =>
    rw [mergeOver_cons]
    exact ih (hbase.put _ _)

/-- The keys of both tables are those of the one laid over the other. -/
theorem has_mergeOver (base top : Entries) (key : Scalar) :
    Entries.has (mergeOver base top) key = (base.has key || top.has key) := by
  induction top generalizing base with
  | nil => exact (Bool.or_false _).symm
  | cons e top ih =>
    have htop : Entries.has (e :: top) key = (e.1.sameKey key || Entries.has top key) := rfl
    rw [mergeOver_cons, ih, htop, ← Bool.or_assoc, has_eq_isSome, get?_put, has_eq_isSome base]
    split
    · rename_i hsame
      rw [hsame, Bool.or_true, Option.isSome_some]
    · rename_i hother
      rw [Bool.eq_false_iff.mpr hother, Bool.or_false]

end Datum

end CodeCatalog
