/-
Which element a full name leads to.

The entry of a full name holds the id that took the name last, and nobody gives an entry back. So a
look-up finds something as long as any element has been added under the name, and what it finds is
the element that the id stands for now (`Reflects.taken`). That one has the name just if the id has
not been added again since: what comes after the last taker of a name has another name, so to add
its id again is to rename it (`current_taker`, `Renamed`).
-/
import CodeCatalog.Proofs.Store.History

set_option autoImplicit false

namespace CodeCatalog.Store

variable {s : Store} {h before behind : List Element} {d e : Element} {f : String}

/-- The last of those elements that are `p`, where none of what comes behind it is. -/
theorem getLast?_filter_split {p : Element → Bool} (hd : p d = true)
    (hbehind : ∀ e ∈ behind, ¬ p e = true) :
    ((before ++ d :: behind).filter p).getLast? = some d := by
  rw [List.filter_append, List.filter_cons_of_pos hd, List.filter_eq_nil_iff.mpr hbehind,
    List.getLast?_concat]

/-! ## Takers

A history is cut at the last element that was added with a full name, in any case. What came behind
it had other full names. -/

/-- The last element that was added under a full name, ignoring case. -/
def taker? (h : List Element) (f : String) : Option Element :=
  (h.filter fun e => Text.lower e.fullName = Text.lower f).getLast?

/-- A history cut at the last element that was added under a full name. -/
structure CutAtTaker (h : List Element) (f : String) (before : List Element) (d : Element)
    (behind : List Element) : Prop where
  split : h = before ++ d :: behind
  named : Text.lower d.fullName = Text.lower f
  otherwise : ∀ e ∈ behind, Text.lower e.fullName ≠ Text.lower f

/-- **The id that took a full name last was added again since**, under another full name. -/
def Renamed (h : List Element) (f : String) : Prop :=
  ∃ before d behind, CutAtTaker h f before d behind ∧ ∃ e ∈ behind, e.id = d.id

/-- Every taker is where its history can be cut. -/
theorem exists_cut (hd : taker? h f = some d) :
    ∃ before behind, CutAtTaker h f before d behind := by
  obtain ⟨ys, hys⟩ := List.getLast?_eq_some_iff.mp hd
  obtain ⟨xs, zs, rfl, -, hzs⟩ := List.filter_eq_append_iff.mp hys
  obtain ⟨us, behind, rfl, -, hnamed, hrest⟩ := List.filter_eq_cons_iff.mp hzs
  refine ⟨xs ++ us, behind, (List.append_assoc _ _ _).symm, of_decide_eq_true hnamed,
    fun e he => ?_⟩
  have := List.filter_eq_nil_iff.mp hrest e he
  simpa using this

/-- The taker is where the history is cut. -/
theorem CutAtTaker.taker?_eq (hcut : CutAtTaker h f before d behind) : taker? h f = some d := by
  rw [taker?, hcut.split]
  exact getLast?_filter_split (decide_eq_true hcut.named) fun e he => by
    simpa using hcut.otherwise e he

theorem taker?_eq_none_iff : taker? h f = none ↔ ∀ e ∈ h, Text.lower e.fullName ≠ Text.lower f := by
  rw [taker?, List.getLast?_eq_none_iff, List.filter_eq_nil_iff]
  simp only [decide_eq_true_eq, ne_eq]

/-! ## Replacement

The element with an id is the last one added with it. If that was added behind the taker of a full
name, the taker has been replaced. -/

/-- An id that is not added again keeps its element. -/
theorem current_of_last (h : ∀ e ∈ behind, e.id ≠ d.id) :
    current (before ++ d :: behind) d = d := by
  have hlast : current? (before ++ d :: behind) d.id = some d :=
    getLast?_filter_split (decide_eq_true rfl) fun e he => by simpa using h e he
  rw [current, hlast, Option.getD_some]

/-- An id that is added again gets an element from there. -/
theorem current_mem_behind (he : e ∈ behind) (hid : e.id = d.id) :
    current (before ++ d :: behind) d ∈ behind := by
  rcases hx : current? behind d.id with _ | x
  · exact absurd hid (current?_eq_none_iff.mp hx e he)
  · -- what is added last in the part behind is added last in all
    have hcurrent : current? (before ++ d :: behind) d.id = some x := by
      rw [List.append_cons, current?, List.filter_append, List.getLast?_append, ← current?, hx]
      rfl
    rw [current, hcurrent, Option.getD_some]
    exact (of_current? hx).1

/-- **What has become of the taker of a name** still has the name just if it was not renamed. -/
theorem current_taker (hd : taker? h f = some d) :
    Text.lower (current h d).fullName = Text.lower f ↔ ¬ Renamed h f := by
  constructor
  -- whoever took the name last has it now, unless the element was added again under another
  · rintro hnamed ⟨before, d', behind, hcut, e, he, hid⟩
    obtain rfl : d' = d := Option.some.inj (hcut.taker?_eq.symm.trans hd)
    rw [hcut.split] at hnamed
    exact hcut.otherwise _ (current_mem_behind he hid) hnamed
  · intro hsame
    obtain ⟨before, behind, hcut⟩ := exists_cut hd
    have hlast : ∀ e ∈ behind, e.id ≠ d.id :=
      fun e he hid => hsame ⟨before, d, behind, hcut, e, he, hid⟩
    rw [hcut.split, current_of_last hlast]
    exact hcut.named

/-! ## Look-ups

A look-up by full name finds the id of the taker and gives the element that the id has now. It is
the taker itself just if it was not replaced under another full name. -/

/-- An element that is found by its id is one of all. -/
theorem Reflects.mem_getAll (hs : Reflects s h) {id : String} (he : s.getById id = some e) :
    e ∈ s.getAll := by
  rw [hs.getById] at he
  obtain ⟨hmem, rfl⟩ := of_current? he
  rw [hs.getAll_eq_latest, latest, List.mem_filterMap]
  exact ⟨e.id, List.mem_eraseDups.mpr (List.mem_map_of_mem hmem), he⟩

/-- A full name leads to what the id of its taker stands for. -/
theorem Reflects.taken (hs : Reflects s h) (hd : taker? h f = some d) :
    s.getByFullName f = some (current h d) ∧ s.getById d.id = some (current h d) := by
  have hmem : d ∈ h := (List.mem_filter.mp (List.mem_of_getLast? hd)).1
  refine ⟨?_, ?_⟩
  · rw [hs.getByFullName]
    show (taker? h f).map (current h) = _
    rw [hd, Option.map_some]
  · rw [hs.getById, current?_of_mem hmem]

/-- Nothing is found under a full name just if no element was ever added with it. -/
theorem Reflects.getByFullName_eq_none_iff (hs : Reflects s h) :
    s.getByFullName f = none ↔ ∀ e ∈ h, Text.lower e.fullName ≠ Text.lower f := by
  rw [← taker?_eq_none_iff, hs.getByFullName]
  exact Option.map_eq_none_iff

/-- **Full-name lookup.** In every store that calls can make, and for every full name: where a
stored element has the name, one is found. Nothing is found just if nothing was added under the
name. And what is found is the stored element of the id that took the name last; it has the name
itself, ignoring case, just if that id was not added again under another one. -/
theorem getByFullName_truthful (calls : List Call) (f : String) :
    let s := after calls
    (∀ e ∈ s.getAll, Text.lower e.fullName = Text.lower f →
      ∃ found, s.getByFullName f = some found) ∧
    (s.getByFullName f = none ↔
      ∀ e ∈ history calls, Text.lower e.fullName ≠ Text.lower f) ∧
    ∀ found, s.getByFullName f = some found →
      (∃ d, taker? (history calls) f = some d ∧ s.getById d.id = some found) ∧ found ∈ s.getAll ∧
        (Text.lower found.fullName = Text.lower f ↔ ¬ Renamed (history calls) f) := by
  intro s
  have hs : Reflects s (history calls) := (records_after calls).reflects
  refine ⟨fun e he hnamed => ?_, hs.getByFullName_eq_none_iff, fun found hfound => ?_⟩
  · -- an element that is stored was added, and under the name
    refine Option.ne_none_iff_exists'.mp fun hnone => ?_
    exact hs.getByFullName_eq_none_iff.mp hnone e (hs.current_of_mem he).1 hnamed
  · rcases hd : taker? (history calls) f with _ | d
    · rw [hs.getByFullName_eq_none_iff.mpr (taker?_eq_none_iff.mp hd)] at hfound
      exact absurd hfound nofun
    · obtain ⟨hname, hid⟩ := hs.taken hd
      obtain rfl : current (history calls) d = found := Option.some.inj (hname.symm.trans hfound)
      exact ⟨⟨d, rfl, hid⟩, hs.mem_getAll hid, current_taker hd⟩

/-- Two elements share a name, of which one was renamed and then named so again: it took the name
last and has it. -/
theorem getByFullName_truthful_again :
    let asset : String → String → Element := fun id fullName =>
      { id := id, fullName := fullName, payload := .asset }
    let calls : List Call := [.add (some (asset "a" "N.A")), .add (some (asset "b" "n.a")),
      .add (some (asset "a" "N.B")), .add (some (asset "a" "N.a"))]
    (after calls).getByFullName "N.A" = some (asset "a" "N.a") ∧
      ¬ Renamed (history calls) "N.A" := by
  intro asset calls
  have hfound : (after calls).getByFullName "N.A" = some (asset "a" "N.a") := by decide +kernel
  obtain ⟨-, -, hnamed⟩ := (getByFullName_truthful calls "N.A").2.2 _ hfound
  exact ⟨hfound, hnamed.mp (by decide +kernel)⟩

/-- **A name leads astray.** An element is found under the name that it had before; and where it had
taken this name from another one, that one, which still has it, is not found. -/
theorem getByFullName_astray :
    let asset : String → String → Element := fun id fullName =>
      { id := id, fullName := fullName, payload := .asset }
    let s := after [.add (some (asset "a" "N.A")), .add (some (asset "a" "N.B"))]
    let t := after [.add (some (asset "a" "N.A")), .add (some (asset "b" "n.a")),
      .add (some (asset "b" "N.B"))]
    Text.lower "N.B" ≠ Text.lower "N.A" ∧
      s.getAll = [asset "a" "N.B"] ∧ s.getByFullName "N.A" = some (asset "a" "N.B") ∧
      t.getAll = [asset "a" "N.A", asset "b" "N.B"] ∧
        t.getByFullName "N.A" = some (asset "b" "N.B") := by
  decide +kernel

end CodeCatalog.Store
