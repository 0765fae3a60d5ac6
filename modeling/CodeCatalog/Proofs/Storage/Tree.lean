/-
What writing to a tree changes, and what creating folders leaves behind.

An entry that is written is found at its place and nowhere else. Creating the folders of a path only
fills places where nothing stood, so whatever stood somewhere still stands there, and doing it again
changes nothing: a tree with `Leads t start parts place` is one where it already has been done. Both
survive a write to any place that is no folder, which is how an index is found again after its files
were written.

What the file at a place stands for (`value?`) is all that opening an index asks of an artifact; its
bytes count where somebody reads it as a file.
-/
import CodeCatalog.Storage.Tree
import Mathlib.Tactic

set_option autoImplicit false

namespace CodeCatalog

/-- The value that an entry stands for. -/
def Entry.value? {α : Type} : Entry α → Option α
  | .artifact value _ => some value
  | _ => none

namespace Tree

variable {α : Type} {t u : Tree α} {place q start : Place} {x : Entry α} {value : α}
  {parts : List String}

/-! ## Entries

A tree is a list of entries, and the last one put at a place counts. What a place stands for is a
coarser view of it, in which files and folders are the same as nothing. -/

@[simp] theorem get?_nil (t : Tree α) : t.get? [] = some .folder := rfl

/-- What was put at a place is found there. -/
theorem get?_put_self (h : place ≠ []) : (t.put place x).get? place = some x := by
  have hnone : (t.entries.filter (·.1 ≠ place)).find? (·.1 = place) = none := by
    rw [List.find?_eq_none]
    intro e he
    have := (List.mem_filter.mp he).2
    simpa using this
  rw [get?, if_neg h, put, List.find?_append, hnone]
  simp

/-- What was put elsewhere changes nothing here. -/
theorem get?_put_of_ne (h : q ≠ place) : (t.put place x).get? q = t.get? q := by
  rw [get?, get?, put, List.find?_append, List.find?_filter]
  -- taking away what stood at `place` takes away nothing at `q`
  have hsame : (fun e : Place × Entry α => decide (decide (e.1 ≠ place) = true ∧
      decide (e.1 = q) = true)) = fun e => decide (e.1 = q) := by
    funext e
    by_cases he : e.1 = q <;> simp [he, h]
  have hlast : List.find? (fun e : Place × Entry α => decide (e.1 = q)) [(place, x)] = none := by
    simp [Ne.symm h]
  rw [hlast, Option.or_none, hsame]

/-- What the file at a place stands for. -/
def value? (t : Tree α) (q : Place) : Option α :=
  (t.get? q).bind Entry.value?

@[simp] theorem value?_nil (t : Tree α) : t.value? [] = none := rfl

theorem value?_of_get? (h : t.get? q = some x) : t.value? q = x.value? := by
  rw [value?, h, Option.bind_some]

theorem value?_put_self (h : place ≠ []) : (t.put place x).value? place = x.value? :=
  value?_of_get? (get?_put_self h)

theorem value?_put_of_ne (h : q ≠ place) : (t.put place x).value? q = t.value? q := by
  rw [value?, get?_put_of_ne h, value?]

/-- Nothing but an artifact stands for a value. -/
theorem exists_artifact (h : t.value? q = some value) :
    ∃ bytes, t.get? q = some (.artifact value bytes) := by
  rw [value?, Option.bind_eq_some_iff] at h
  obtain ⟨x, hx, hvalue⟩ := h
  cases x with
  | folder => cases hvalue
  | file => cases hvalue
  | artifact value' bytes =>
    obtain rfl := Option.some.inj hvalue
    exact ⟨bytes, hx⟩

/-! ## Folders on the way

Making the folders of a path creates those that are missing and keeps those that are there, so
afterwards the path leads through folders. -/

/-- The folders that parts lead through are all there, and end at `place`. -/
def Leads (t : Tree α) (start : Place) (parts : List String) (place : Place) : Prop :=
  t.makeFolders start parts = .ok (t, place)

/-- Creating folders leaves what stood in the tree where it was. -/
theorem get?_of_makeFolders (h : t.makeFolders start parts = .ok (u, place))
    (hq : t.get? q = some x) : u.get? q = some x := by
  induction parts generalizing t start with
  | nil =>
    simp only [makeFolders, Except.ok.injEq, Prod.mk.injEq] at h
    rw [← h.1]
    exact hq
  | cons part rest ih =>
    rw [makeFolders] at h
    split at h
    · exact absurd h (by simp)
    · next p hp =>
      split at h
      · exact ih h hq
      · next hnone =>
        -- the new folder stands where nothing stood, so not at `q`
        have hne : q ≠ p := by
          rintro rfl
          rw [hnone] at hq
          exact absurd hq (by simp)
        exact ih h (by rw [get?_put_of_ne hne]; exact hq)
      · exact absurd h (by simp)

/-- What stands in the tree after folders were created and is no folder has stood there before. -/
theorem get?_before_makeFolders (h : t.makeFolders start parts = .ok (u, place))
    (hq : u.get? q = some x) (hx : x ≠ .folder) : t.get? q = some x := by
  induction parts generalizing t start with
  | nil =>
    simp only [makeFolders, Except.ok.injEq, Prod.mk.injEq] at h
    rw [h.1]
    exact hq
  | cons part rest ih =>
    rw [makeFolders] at h
    split at h
    · exact absurd h (by simp)
    · next p hp =>
      split at h
      · exact ih h
      · next hnone =>
        have hput : (t.put p .folder).get? q = some x := ih h
        by_cases hqp : q = p
        · -- where the new folder stands there is nothing else
          rw [hqp] at hput
          by_cases hp : p = []
          · rw [hp, get?_nil] at hput
            exact absurd (Option.some.inj hput).symm hx
          · rw [get?_put_self hp] at hput
            exact absurd (Option.some.inj hput).symm hx
        · rw [get?_put_of_ne hqp] at hput
          exact hput
      · exact absurd h (by simp)

/-- Folders that were created are there: creating them again changes nothing. -/
theorem leads_of_makeFolders (h : t.makeFolders start parts = .ok (u, place)) :
    u.Leads start parts place := by
  induction parts generalizing t start with
  | nil =>
    simp only [makeFolders, Except.ok.injEq, Prod.mk.injEq] at h
    rw [Leads, makeFolders, h.2]
  | cons part rest ih =>
    rw [makeFolders] at h
    split at h
    · exact absurd h (by simp)
    · next p hp =>
      -- a folder that is there, or was just made, is still there at the end
      have hstep : ∀ (t' : Tree α), t'.get? p = some .folder →
          t'.makeFolders p rest = .ok (u, place) → u.Leads start (part :: rest) place := by
        intro t' hfolder h'
        have hu := get?_of_makeFolders h' hfolder
        rw [Leads, makeFolders, hp]
        simp only [hu]
        exact ih h'
      split at h
      · next hfolder => exact hstep t hfolder h
      · next hnone =>
        have hroot : p ≠ [] := by
          rintro rfl
          exact absurd hnone (by simp)
        exact hstep _ (get?_put_self hroot) h
      · exact absurd h (by simp)

/-- Writing to a place that is no folder leaves the way through the folders as it is. -/
theorem Leads.put (h : t.Leads start parts place) (hq : t.get? q ≠ some .folder) :
    (t.put q x).Leads start parts place := by
  induction parts generalizing start with
  | nil =>
    simp only [Leads, makeFolders, Except.ok.injEq, Prod.mk.injEq, true_and] at h ⊢
    exact h
  | cons part rest ih =>
    rw [Leads, makeFolders] at h ⊢
    split at h
    · exact absurd h (by simp)
    · next p hp =>
      split at h
      · next hfolder =>
        have hne : p ≠ q := by
          rintro rfl
          exact hq hfolder
        simp only [get?_put_of_ne hne, hfolder]
        exact ih h
      · next hnone =>
        -- a tree that already leads to the place has all folders
        have hroot : p ≠ [] := by
          rintro rfl
          exact absurd hnone (by simp)
        have hsome := get?_of_makeFolders h (get?_put_self (x := .folder) hroot)
        rw [hnone] at hsome
        exact absurd hsome (by simp)
      · exact absurd h (by simp)

/-! ## Files

Putting a file at a path and reading it there are inverse to each other, whatever the file held
before. -/

/-- Writing to a place that is no folder leaves every way through folders open. -/
theorem walk_put (h : t.walk start parts = .ok place) (hq : t.get? q ≠ some .folder) :
    (t.put q x).walk start parts = .ok place := by
  induction parts generalizing start with
  | nil => exact h
  | cons part rest ih =>
    rw [walk] at h ⊢
    rcases hfolder : t.get? start with _ | ⟨_ | _ | _⟩ <;>
      simp only [requireFolder, hfolder] at h <;> try exact absurd h (by rintro ⟨⟩)
    -- every place on the way is a folder, and the changed entry is none
    have hne : start ≠ q := by
      rintro rfl
      exact hq hfolder
    rw [requireFolder, get?_put_of_ne hne, hfolder]
    rcases hstep : step start part with f | next
    · rw [hstep] at h
      exact absurd h (by rintro ⟨⟩)
    · rw [hstep] at h
      exact ih h

/-- What a write to a path found out: where the file stands, and that no folder stands there. -/
theorem exists_of_putFileAt {folder : Place} {path : Path} {bytes : ByteArray}
    (h : t.putFileAt folder path bytes = .ok u) :
    ∃ v below, t.makeFolder folder path.parent = .ok (v, below) ∧
      ∃ place, v.locate folder path = .ok place ∧ v.get? place ≠ some .folder ∧
        u = v.put place (.file bytes) := by
  rw [putFileAt] at h
  rcases hmake : t.makeFolder folder path.parent with f | ⟨v, below⟩
  · rw [hmake] at h
    exact absurd h (by rintro ⟨⟩)
  · rw [hmake] at h
    refine ⟨v, below, rfl, ?_⟩
    replace h : v.putFile folder path bytes = .ok u := h
    rw [putFile] at h
    rcases hplace : v.locate folder path with f | place
    · rw [hplace] at h
      exact absurd h (by rintro ⟨⟩)
    · rw [hplace] at h
      refine ⟨place, rfl, ?_⟩
      simp only [bind, Except.bind] at h
      -- only a folder at the place is in the way
      split at h
      · exact absurd h (by rintro ⟨⟩)
      · next hnot => exact ⟨hnot, (Except.ok.inj h).symm⟩

/-- A path that can be written at all can be written with any bytes, and they are found there. -/
theorem putFileAt_bytesAt {folder : Place} {path : Path} {bytes : ByteArray}
    (h : t.putFileAt folder path bytes = .ok u) (bytes' : ByteArray) :
    ∃ u', t.putFileAt folder path bytes' = .ok u' ∧ u'.bytesAt folder path = .ok bytes' := by
  obtain ⟨v, below, hmake, place, hplace, hnot, -⟩ := exists_of_putFileAt h
  -- the root is a folder and no place for a file
  have hroot : place ≠ [] := by
    rintro rfl
    exact hnot (get?_nil v)
  refine ⟨v.put place (.file bytes'), ?_, ?_⟩
  · rw [putFileAt, hmake]
    show v.putFile folder path bytes' = _
    rw [putFile, hplace]
    simp only [bind, Except.bind]
  · have hagain : (v.put place (.file bytes')).locate folder path = .ok place :=
      walk_put hplace hnot
    rw [bytesAt, hagain]
    simp only [bind, Except.bind, get?_put_self hroot]

end Tree

end CodeCatalog
