/-
What can be written out in a report about the settings.

A whole number is written out only up to a certain number of digits. A datum without such a number
has none within it (`hereditary_canDescribe`), and tables without one have none when they are laid
over each other (`canDescribeEntries_mergeOver`).
-/
import CodeCatalog.Proofs.Settings.Verdict

set_option autoImplicit false

namespace CodeCatalog.Settings

open Datum

variable {entries : Entries}

/-- A list can be written just if all its items can. -/
theorem canDescribeItems_iff {items : List Datum} :
    canDescribeItems items = true ↔ ∀ d ∈ items, d.canDescribe = true := by
  induction items with
  | nil => exact iff_of_true rfl (List.forall_mem_nil _)
  | cons d items ih => rw [canDescribeItems, Bool.and_eq_true, ih, List.forall_mem_cons]

/-- A table can be written just if all its keys and its values can. -/
theorem canDescribeEntries_iff : canDescribeEntries entries = true ↔
    ∀ e ∈ entries, e.1.canDescribe = true ∧ e.2.canDescribe = true := by
  induction entries with
  | nil => exact iff_of_true rfl (List.forall_mem_nil _)
  | cons e entries ih =>
    rw [canDescribeEntries, Bool.and_eq_true, Bool.and_eq_true, ih, List.forall_mem_cons]

/-- Labels have no part in what is written. -/
@[simp] theorem canDescribe_bare (d : Datum) : d.bare.canDescribe = d.canDescribe := by
  induction d using bare.induct with
  | case1 label d ih => exact ih
  | case2 d hd => rw [bare.eq_def]; split <;> first | rfl | exact absurd rfl (hd _ _)

/-- What lies within a datum has no more digits than the datum. -/
theorem hereditary_canDescribe : Hereditary fun d => d.canDescribe = true where
  entry := fun {d es} hd hes e he => by
    rw [← canDescribe_bare, hes] at hd
    exact (canDescribeEntries_iff.mp hd e he).2
  item := fun {d items} hd hitems item hitem => by
    rw [← canDescribe_bare] at hd
    rw [itemsOf?] at hitems
    generalize d.bare = b at hd hitems
    -- a list, a pair and a set have items; what has none has nothing to inherit to
    cases b with
    | list items' =>
      obtain rfl := Option.some.inj hitems
      exact canDescribeItems_iff.mp hd item hitem
    | pair first second =>
      obtain rfl := Option.some.inj hitems
      obtain ⟨hfirst, hsecond⟩ := Bool.and_eq_true_iff.mp hd
      rcases List.mem_pair.mp hitem with rfl | rfl
      · exact hfirst
      · exact hsecond
    | set members =>
      obtain rfl := Option.some.inj hitems
      obtain ⟨m, hm, rfl⟩ := List.mem_map.mp hitem
      exact List.all_eq_true.mp hd m hm
    | _ => cases hitems

/-- Putting something that can be written keeps a table so. -/
theorem canDescribeEntries_put {key : Scalar} {v : Datum}
    (hentries : canDescribeEntries entries = true) (hkey : key.canDescribe = true)
    (hv : v.canDescribe = true) : canDescribeEntries (entries.put key v) = true := by
  induction entries with
  | nil => rw [Entries.put, canDescribeEntries, hkey, hv]; rfl
  | cons e entries ih =>
    obtain ⟨he, hrest⟩ := Bool.and_eq_true_iff.mp hentries
    obtain ⟨hk, hd⟩ := Bool.and_eq_true_iff.mp he
    rw [Entries.put]
    split
    · rw [canDescribeEntries, hk, hv, hrest]; rfl
    · rw [canDescribeEntries, hk, hd, ih hrest]; rfl

mutual

/-- Of two data that can be written, one can be laid over the other and the result be written. -/
theorem canDescribe_merge {base : Datum} (hbase : base.canDescribe = true) :
    ∀ {top : Datum}, top.canDescribe = true → (merge base top).canDescribe = true
  -- a table is laid over a table entry by entry, and anything else replaces what was there; labels
  -- are looked through
  | .table top, htop => by
    rw [merge]
    split
    · rename_i b hb
      rw [← canDescribe_bare, hb] at hbase
      exact canDescribeEntries_mergeOver hbase htop
    · exact htop
  | .knot _ top, htop => by
    rw [merge]
    split
    · exact canDescribe_merge hbase htop
    · exact htop
  | .scalar _, htop | .list _, htop | .pair _ _, htop | .set _, htop | .again _, htop => by
    rw [merge]
    · exact htop
    · exact nofun
    · exact nofun

/-- Sources laid over each other have no number that none of them has. -/
theorem canDescribeEntries_mergeOver {base : Entries} (hbase : canDescribeEntries base = true) :
    ∀ {top : List (Scalar × Datum)}, canDescribeEntries top = true →
      canDescribeEntries (mergeOver base top) = true
  | [], _ => hbase
  | (key, v) :: top, htop => by
    obtain ⟨he, hrest⟩ := Bool.and_eq_true_iff.mp htop
    obtain ⟨hkey, hv⟩ := Bool.and_eq_true_iff.mp he
    rw [mergeOver_cons]
    refine canDescribeEntries_mergeOver (canDescribeEntries_put hbase hkey ?_) hrest
    -- what is put there is the value itself or lies over one of the lower table
    rcases hold : base.get? key with _ | old
    · exact hv
    · obtain ⟨e, he, rfl⟩ := Option.map_eq_some_iff.mp hold
      have hmem := List.mem_of_find?_eq_some he
      exact canDescribe_merge (canDescribeEntries_iff.mp hbase e hmem).2 hv

end

end CodeCatalog.Settings
