/-
Where the runs of a class of characters stand in a text.

A run stands from one place of a text up to another (`IsRun`): it is not empty, all its characters
are of the class, and what comes right before it and right behind it, if anything does, is not.
`runs` gives the runs of a text in their order, and leaves none of them out (`exists_places`).

All of it rests on one law. A character outside the class parts the text around it: the runs of the
whole are those of the text before it and, moved along, those of the text behind it
(`runs_parted`, `isRun_parted`). A text is nothing but pieces of the class with such characters
between them, so what holds of one piece and is kept by parting holds of every text
(`parting_induction`).
-/
import CodeCatalog.Proofs.Text.Words

set_option autoImplicit false

namespace CodeCatalog.Text

variable {p : Char → Bool} {text a b : List Char} {c : Char} {i j : Nat}

/-! ## Runs

A text is parted at its first character of another sort, and its runs are those before and those
behind. This gives an induction principle of its own. -/

/-- **Runs are parted** by a character outside the class. -/
theorem runs_parted (hc : p c = false) (a b : List Char) :
    runs p (a ++ c :: b) = runs p a ++ runs p b := by
  rw [runs, cutAt_parted (by simp [hc]), List.filter_append]
  rfl

/-- A piece of the class is its own only run. -/
theorem runs_of_all (hne : text ≠ []) (h : ∀ c ∈ text, p c = true) : runs p text = [text] := by
  have hcut : cutAt (fun c => !p c) text = [text] := by
    apply cutAt_of_no_separator
    intro c hc
    simp [h c hc]
  rw [runs, hcut]
  simp [hne]

/-- What holds of every piece of the class, and of what is parted by a character outside it once it
holds of what is behind that character, holds of every text. -/
theorem parting_induction {motive : List Char → Prop} (p : Char → Bool)
    (piece : ∀ text, (∀ c ∈ text, p c = true) → motive text)
    (parted : ∀ a c b, (∀ x ∈ a, p x = true) → p c = false → motive b → motive (a ++ c :: b))
    (text : List Char) : motive text := by
  -- the piece that the text begins with is gathered in front of the rest
  suffices h : ∀ a : List Char, (∀ x ∈ a, p x = true) → motive (a ++ text) from
    h [] (by simp)
  induction text with
  | nil =>
    intro a ha
    rw [List.append_nil]
    exact piece a ha
  | cons c b ih =>
    intro a ha
    by_cases hc : p c = true
    · have hgathered : ∀ x ∈ a ++ [c], p x = true := by
        intro x hx
        rcases List.mem_append.mp hx with hx | hx
        · exact ha x hx
        · rw [List.mem_singleton.mp hx]
          exact hc
      have hrest := ih (a ++ [c]) hgathered
      rwa [List.append_assoc] at hrest
    · exact parted a c b ha (by simpa using hc) (ih [] (by simp))

/-! ## Places of runs

A run has a place in its text. Parting the text moves the places behind by as much as stands before.
-/

/-- **A run** of a class from one place of a text up to another: it is not empty, its characters are
of the class, and neither the one before it nor the one behind it is. -/
structure IsRun (p : Char → Bool) (text : List Char) (i j : Nat) : Prop where
  lt : i < j
  le : j ≤ text.length
  inside : ∀ k x, i ≤ k → k < j → text[k]? = some x → p x = true
  before : ∀ k x, k + 1 = i → text[k]? = some x → p x = false
  behind : ∀ x, text[j]? = some x → p x = false

/-- A piece of the class has one run, from its start to its end. -/
theorem isRun_of_all (h : ∀ c ∈ text, p c = true) :
    IsRun p text i j ↔ text ≠ [] ∧ i = 0 ∧ j = text.length := by
  constructor
  · intro hrun
    have hlt := hrun.lt
    have hle := hrun.le
    refine ⟨?_, ?_, ?_⟩
    · rintro rfl
      simp at hle
      omega
    · by_contra hi
      -- a character in front of the run would be of the class
      obtain ⟨k, rfl⟩ := Nat.exists_eq_add_one_of_ne_zero hi
      have hk : k < text.length := by omega
      have hfalse := hrun.before k text[k] rfl (List.getElem?_eq_getElem hk)
      rw [h _ (List.getElem_mem hk)] at hfalse
      cases hfalse
    · by_contra hj
      have hk : j < text.length := by omega
      have hfalse := hrun.behind text[j] (List.getElem?_eq_getElem hk)
      rw [h _ (List.getElem_mem hk)] at hfalse
      cases hfalse
  · rintro ⟨hne, rfl, rfl⟩
    refine ⟨List.length_pos_iff.mpr hne, le_refl _, ?_, ?_, ?_⟩
    · intro k x _ _ hx
      exact h x (List.mem_of_getElem? hx)
    · intro k x hk
      omega
    · intro x hx
      simp at hx

section Parted

variable (hc : p c = false)

include hc

/-- A run stands on one side of the character that parts the text. -/
theorem IsRun.side (h : IsRun p (a ++ c :: b) i j) : j ≤ a.length ∨ a.length + 1 ≤ i := by
  by_contra hside
  have htrue : p c = true := h.inside a.length c (by omega) (by omega) (by simp)
  rw [hc] at htrue
  cases htrue

/-- The runs before it are those of the text before it. -/
theorem isRun_left (hj : j ≤ a.length) : IsRun p (a ++ c :: b) i j ↔ IsRun p a i j := by
  have hsame : ∀ k < a.length, (a ++ c :: b)[k]? = a[k]? := fun k hk =>
    List.getElem?_append_left hk
  constructor
  · intro h
    have hlt := h.lt
    refine ⟨hlt, hj, fun k x hik hkj hx => ?_, fun k x hk hx => ?_, fun x hx => ?_⟩
    · exact h.inside k x hik hkj (by rwa [hsame k (by omega)])
    · exact h.before k x hk (by rwa [hsame k (by omega)])
    · have hlast : j < a.length := (List.getElem?_eq_some_iff.mp hx).1
      exact h.behind x (by rwa [hsame j hlast])
  · intro h
    have hlt := h.lt
    refine ⟨hlt, ?_, fun k x hik hkj hx => ?_, fun k x hk hx => ?_, fun x hx => ?_⟩
    · simp only [List.length_append]
      omega
    · exact h.inside k x hik hkj (by rwa [hsame k (by omega)] at hx)
    · exact h.before k x hk (by rwa [hsame k (by omega)] at hx)
    · rcases Nat.lt_or_eq_of_le hj with hlast | rfl
      · exact h.behind x (by rwa [hsame j hlast] at hx)
      · -- a run up to the end of the text before it has the parting character behind it
        obtain rfl : c = x := by simpa using hx
        exact hc

/-- The runs behind it are those of the text behind it, moved along. -/
theorem isRun_right :
    IsRun p (a ++ c :: b) (a.length + 1 + i) (a.length + 1 + j) ↔ IsRun p b i j := by
  have hsame : ∀ k, (a ++ c :: b)[a.length + 1 + k]? = b[k]? := by
    intro k
    rw [List.getElem?_append_right (by omega), show a.length + 1 + k - a.length = k + 1 by omega,
      List.getElem?_cons_succ]
  have hlength : (a ++ c :: b).length = a.length + 1 + b.length := by
    simp only [List.length_append, List.length_cons]
    omega
  constructor
  · intro h
    have hlt := h.lt
    have hle := h.le
    refine ⟨by omega, by omega, fun k x hik hkj hx => ?_, fun k x hk hx => ?_, fun x hx => ?_⟩
    · exact h.inside (a.length + 1 + k) x (by omega) (by omega) (by rwa [hsame])
    · exact h.before (a.length + 1 + k) x (by omega) (by rwa [hsame])
    · exact h.behind x (by rwa [hsame])
  · intro h
    have hlt := h.lt
    have hle := h.le
    refine ⟨by omega, by omega, fun k x hik hkj hx => ?_, fun k x hk hx => ?_, fun x hx => ?_⟩
    · obtain ⟨k, rfl⟩ := Nat.exists_eq_add_of_le (show a.length + 1 ≤ k by omega)
      exact h.inside k x (by omega) (by omega) (by rwa [hsame] at hx)
    · by_cases hi : i = 0
      · -- a run from the start of the text behind it has the parting character before it
        obtain rfl : k = a.length := by omega
        obtain rfl : c = x := by simpa using hx
        exact hc
      · obtain ⟨k, rfl⟩ := Nat.exists_eq_add_of_le (show a.length + 1 ≤ k by omega)
        exact h.before k x (by omega) (by rwa [hsame] at hx)
    · exact h.behind x (by rwa [hsame] at hx)

/-- **No run is lost, split or joined** where a text is parted: its runs are those of the text
before the character and, moved along, those of the text behind it. -/
theorem isRun_parted : IsRun p (a ++ c :: b) i j ↔
    IsRun p a i j ∨ ∃ i' j', i = a.length + 1 + i' ∧ j = a.length + 1 + j' ∧ IsRun p b i' j' := by
  constructor
  · intro h
    have hlt := h.lt
    rcases h.side hc with hj | hi
    · exact .inl ((isRun_left hc hj).mp h)
    · obtain ⟨i', rfl⟩ := Nat.exists_eq_add_of_le hi
      obtain ⟨j', rfl⟩ := Nat.exists_eq_add_of_le (show a.length + 1 ≤ j by omega)
      exact .inr ⟨i', j', rfl, rfl, (isRun_right hc).mp h⟩
  · rintro (h | ⟨i', j', rfl, rfl, h⟩)
    · exact (isRun_left hc h.le).mpr h
    · exact (isRun_right hc).mpr h

end Parted

/-! ## All runs in order

The places of all runs, from left to right, cut the runs out of the text. -/

/-- Places that follow on each other, and among which are just those where a run stands. -/
structure ListsRuns (p : Char → Bool) (text : List Char) (places : List (Nat × Nat)) : Prop where
  ordered : places.Pairwise fun r s => r.2 < s.1
  mem_iff : ∀ i j, (i, j) ∈ places ↔ IsRun p text i j

/-- The empty text has no runs. -/
theorem listsRuns_nil (p : Char → Bool) : ListsRuns p [] [] := by
  refine ⟨List.Pairwise.nil, fun i j => ?_⟩
  rw [isRun_of_all (by simp)]
  simp

/-- A text of such characters alone is one run. -/
theorem listsRuns_of_all (hne : text ≠ []) (h : ∀ c ∈ text, p c = true) :
    ListsRuns p text [(0, text.length)] := by
  refine ⟨List.pairwise_singleton _ _, fun i j => ?_⟩
  rw [isRun_of_all h]
  simp [hne]

/-- The place behind `n` characters and the one that parts the text. -/
def moved (n : Nat) (r : Nat × Nat) : Nat × Nat :=
  (n + 1 + r.1, n + 1 + r.2)

/-- Parting a text keeps its runs in order. -/
theorem ListsRuns.parted {places places' : List (Nat × Nat)} (hc : p c = false)
    (ha : ListsRuns p a places) (hb : ListsRuns p b places') :
    ListsRuns p (a ++ c :: b) (places ++ places'.map (moved a.length)) := by
  constructor
  · rw [List.pairwise_append, List.pairwise_map]
    refine ⟨ha.ordered, hb.ordered.imp ?_, ?_⟩
    · intro r s h
      simp only [moved]
      omega
    · -- runs of the first part end before the parting character
      rintro ⟨i, j⟩ hr s hs
      obtain ⟨s', -, rfl⟩ := List.mem_map.mp hs
      have hle := ((ha.mem_iff i j).mp hr).le
      simp only [moved]
      omega
  · intro i j
    rw [isRun_parted hc, List.mem_append, ha.mem_iff, List.mem_map]
    apply or_congr_right
    constructor
    · rintro ⟨⟨i', j'⟩, hmem, hmoved⟩
      obtain ⟨rfl, rfl⟩ := Prod.mk.inj hmoved
      exact ⟨i', j', rfl, rfl, (hb.mem_iff i' j').mp hmem⟩
    · rintro ⟨i', j', rfl, rfl, hrun⟩
      exact ⟨(i', j'), (hb.mem_iff i' j').mpr hrun, rfl⟩

/-- A stretch before the parting character is one of what stands before it. -/
theorem extract_left (hj : j ≤ a.length) : (a ++ c :: b).extract i j = a.extract i j := by
  rw [List.extract_eq_take_drop, List.extract_eq_take_drop]
  by_cases hi : i ≤ a.length
  · rw [List.drop_append_of_le_length hi, List.take_append_of_le_length]
    rw [List.length_drop]
    omega
  · rw [show j - i = 0 by omega, List.take_zero, List.take_zero]

/-- A stretch behind the parting character is one of what stands behind it, moved. -/
theorem extract_moved (r : Nat × Nat) :
    (a ++ c :: b).extract (moved a.length r).1 (moved a.length r).2 = b.extract r.1 r.2 := by
  simp only [moved, List.extract_eq_take_drop]
  rw [show a.length + 1 + r.2 - (a.length + 1 + r.1) = r.2 - r.1 by omega, ← List.drop_drop,
    ← List.drop_drop, List.drop_left, List.drop_one, List.tail_cons]

/-- **The runs of a text, in order,** are what stands at their places. -/
theorem exists_places (p : Char → Bool) (text : List Char) : ∃ places : List (Nat × Nat),
    ListsRuns p text places ∧ runs p text = places.map fun r => text.extract r.1 r.2 := by
  have hpiece : ∀ text : List Char, (∀ c ∈ text, p c = true) → ∃ places : List (Nat × Nat),
      ListsRuns p text places ∧ runs p text = places.map fun r => text.extract r.1 r.2 := by
    intro text h
    by_cases hne : text = []
    · subst hne
      exact ⟨[], listsRuns_nil p, rfl⟩
    · refine ⟨[(0, text.length)], listsRuns_of_all hne h, ?_⟩
      simp [runs_of_all hne h, List.extract_eq_take_drop]
  -- a piece without the parting character is one run or none
  induction text using parting_induction p with
  | piece text h => exact hpiece text h
  | parted a c b h hc ih =>
    obtain ⟨places, ha, hruns⟩ := hpiece a h
    obtain ⟨places', hb, hruns'⟩ := ih
    refine ⟨places ++ places'.map (moved a.length), ha.parted hc hb, ?_⟩
    rw [runs_parted hc, hruns, hruns', List.map_append, List.map_map]
    congr 1
    · apply List.map_congr_left
      rintro ⟨i, j⟩ hr
      exact (extract_left ((ha.mem_iff i j).mp hr).le).symm
    · apply List.map_congr_left
      intro r _
      exact (extract_moved r).symm

end CodeCatalog.Text
