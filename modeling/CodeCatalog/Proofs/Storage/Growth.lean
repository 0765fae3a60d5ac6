/-
How a tree grows when files are created and written.

Creating a file makes the folders on the way where nothing stands, and writing one replaces what
stands at its place, unless that is a folder. So a place changes in one of two ways (`Grows`), and
only if it is one of the folders or one of the files that are worked on. What has been made by such
changes stays made: folders stay folders, and a file that is there stays a file (`HasFile`), whatever
is written to it. A file that is there is created again without a change.

Where two trees differ at one place alone, and a file stands there, the folders of a path can be made
in both or in neither (`makeFolders_congr`).
-/
import CodeCatalog.Log.Sink
import CodeCatalog.Proofs.Storage.Tree

set_option autoImplicit false

namespace CodeCatalog

namespace Tree

variable {α : Type} {t u v : Tree α} {place q start : Place} {x : Entry α} {parts : List String}
  {folders files : List Place}

/-! ## The places of a path

The places that a walk along a path visits are told by the parts of the path, whatever is in the
tree. Dots do not count, and two of them lead one folder up. -/

/-- The places that parts lead through. -/
def passed : Place → List String → List Place
  | _, [] => []
  | start, part :: rest => match step start part with
    | .ok place => place :: passed place rest
    | .error _ => []

/-- The place that parts lead to, whatever stands on the way. -/
def ends? : Place → List String → Option Place
  | start, [] => some start
  | start, part :: rest => match step start part with
    | .ok place => ends? place rest
    | .error _ => none

/-- Making folders along a path ends where the path does. -/
theorem ends?_of_makeFolders (h : t.makeFolders start parts = .ok (u, place)) :
    ends? start parts = some place := by
  -- along the parts; a folder on the way is there or is made, and the place does not depend on
  -- which
  induction parts generalizing t start with
  | nil =>
    simp only [makeFolders, Except.ok.injEq, Prod.mk.injEq] at h
    rw [ends?, h.2]
  | cons part rest ih =>
    rw [makeFolders] at h
    rw [ends?]
    rcases hstep : step start part with f | p <;> rw [hstep] at h
    · cases h
    · dsimp only at h ⊢
      split at h
      · exact ih h
      · exact ih h
      · cases h

/-- So does walking along it. -/
theorem ends?_of_walk (h : t.walk start parts = .ok place) : ends? start parts = some place := by
  induction parts generalizing start with
  | nil => rw [ends?, Except.ok.inj h]
  | cons part rest ih =>
    rw [walk] at h
    rw [ends?]
    -- on the way every step is a folder, but that has no part in where the way ends
    rcases hfolder : t.requireFolder start with f | _
    · rw [hfolder] at h
      cases h
    · rw [hfolder] at h
      rcases hstep : step start part with f | next
      · rw [hstep] at h
        cases h
      · rw [hstep] at h
        exact ih h

/-- A way that has an end is followed to it, unless something on the way is missing or is no
folder. -/
theorem walk_fault {f : FileFault} (hends : ends? start parts = some place)
    (h : t.walk start parts = .error f) : f = .missing ∨ f = .notFolder := by
  induction parts generalizing start with
  | nil => cases h
  | cons part rest ih =>
    rw [ends?] at hends
    rw [walk] at h
    -- the way stops at what is missing or at what is no folder; it does not leave the root, since
    -- its end is known
    rcases hfolder : t.requireFolder start with g | _ <;> rw [hfolder] at h
    · obtain rfl : g = f := Except.error.inj h
      rw [requireFolder] at hfolder
      split at hfolder
      · cases hfolder
      · exact .inr (Except.error.inj hfolder).symm
      · exact .inl (Except.error.inj hfolder).symm
    · rcases hstep : step start part with g | next <;> rw [hstep] at hends h
      · cases hends
      · exact ih hends h

/-! ## Growing

A tree grows by folders and files at certain places and by nothing else. What is apart from these
places stays as it was, and a way that could be walked can still be walked. -/

/-- What becomes of a place: it stays as it is, a folder is made, or a file is written. -/
inductive Grows (folders files : List Place) (q : Place) :
    Option (Entry α) → Option (Entry α) → Prop
  | same (x : Option (Entry α)) : Grows folders files q x x
  | folder (hq : q ∈ folders) : Grows folders files q none (some .folder)
  | file {x : Option (Entry α)} {y : Entry α} (hq : q ∈ files) (hx : x ≠ some .folder)
      (hy : y ≠ .folder) : Grows folders files q x (some y)

/-- **Growth.** The second tree has come from the first by making some folders and writing some
files. -/
def Grown (folders files : List Place) (t u : Tree α) : Prop :=
  ∀ q, Grows folders files q (t.get? q) (u.get? q)

theorem Grown.refl (folders files : List Place) (t : Tree α) : Grown folders files t t :=
  fun _ => .same _

/-- A tree that grows twice has grown. -/
theorem Grown.trans (h : Grown folders files t u) (h' : Grown folders files u v) :
    Grown folders files t v := by
  intro q
  have hfirst := h q
  have hsecond := h' q
  generalize t.get? q = x at hfirst ⊢
  generalize u.get? q = y at hfirst hsecond
  generalize v.get? q = z at hsecond ⊢
  cases hsecond with
  | same => exact hfirst
  | folder hq =>
    -- nothing stood there, so nothing had changed before
    cases hfirst
    exact .folder hq
  | file hq hx hy =>
    cases hfirst with
    | same => exact .file hq hx hy
    | folder => exact absurd rfl hx
    | file _ hx' _ => exact .file hq hx' hy

/-- A tree may grow by less than it was allowed to. -/
theorem Grown.mono {folders' files' : List Place} (h : Grown folders files t u)
    (hfolders : folders ⊆ folders') (hfiles : files ⊆ files') : Grown folders' files' t u := by
  intro q
  have hq := h q
  generalize t.get? q = x at hq ⊢
  generalize u.get? q = y at hq ⊢
  cases hq with
  | same => exact .same _
  | folder hmem => exact .folder (hfolders hmem)
  | file hmem hx hy => exact .file (hfiles hmem) hx hy

section Grown

variable (h : Grown folders files t u)

include h

/-- Folders stay folders. -/
theorem Grown.isFolder (hq : t.get? q = some .folder) : u.get? q = some .folder := by
  have hgrows := h q
  rw [hq] at hgrows
  generalize u.get? q = y at hgrows ⊢
  cases hgrows with
  | same => rfl
  | file _ hx _ => exact absurd rfl hx

/-- Files stay files. -/
theorem Grown.isFile (hq : t.get? q = some x) (hx : x ≠ .folder) :
    ∃ y, u.get? q = some y ∧ y ≠ .folder := by
  have hgrows := h q
  rw [hq] at hgrows
  generalize u.get? q = y at hgrows ⊢
  cases hgrows with
  | same => exact ⟨x, rfl, hx⟩
  | file _ _ hy => exact ⟨_, rfl, hy⟩

/-- What is not written stays as it is. -/
theorem Grown.get?_eq (hq : t.get? q = some x) (hmem : q ∉ files) : u.get? q = some x := by
  have hgrows := h q
  rw [hq] at hgrows
  generalize u.get? q = y at hgrows ⊢
  cases hgrows with
  | same => rfl
  | file hmem' _ _ => exact absurd hmem' hmem

/-- Where nothing is made or written, there is what there was. -/
theorem Grown.get?_of_apart (hfolders : q ∉ folders) (hfiles : q ∉ files) :
    u.get? q = t.get? q := by
  have hgrows := h q
  generalize u.get? q = y at hgrows ⊢
  generalize t.get? q = x at hgrows ⊢
  cases hgrows with
  | same => rfl
  | folder hmem => exact absurd hmem hfolders
  | file hmem _ _ => exact absurd hmem hfiles

/-- A way through folders is still one when more has grown. -/
theorem Leads.grown (hleads : t.Leads start parts place) : u.Leads start parts place := by
  induction parts generalizing start with
  | nil =>
    simp only [Leads, makeFolders, Except.ok.injEq, Prod.mk.injEq, true_and] at hleads ⊢
    exact hleads
  | cons part rest ih =>
    rw [Leads, makeFolders] at hleads ⊢
    split at hleads
    · cases hleads
    · next p hp =>
      split at hleads
      · next hfolder =>
        rw [h.isFolder hfolder]
        exact ih hleads
      · next hnone =>
        -- a tree that leads to the place has all folders
        have hroot : p ≠ [] := by
          rintro rfl
          cases hnone
        have hsome := get?_of_makeFolders hleads (get?_put_self (x := .folder) hroot)
        rw [hnone] at hsome
        cases hsome
      · cases hleads

/-- A walk that came to its end does so again. -/
theorem walk_grown (hwalk : t.walk start parts = .ok place) : u.walk start parts = .ok place := by
  induction parts generalizing start with
  | nil => exact hwalk
  | cons part rest ih =>
    rw [walk] at hwalk ⊢
    -- a folder on the way is one afterwards
    rcases hfolder : t.get? start with _ | ⟨_ | _ | _⟩ <;>
      simp only [requireFolder, hfolder] at hwalk <;> try exact absurd hwalk (by rintro ⟨⟩)
    rw [requireFolder, h.isFolder hfolder]
    rcases hstep : step start part with f | next
    · rw [hstep] at hwalk
      exact absurd hwalk (by rintro ⟨⟩)
    · rw [hstep] at hwalk
      exact ih hwalk

end Grown

/-- Writing a file. -/
theorem grown_put (hq : q ∈ files) (hentry : t.get? q ≠ some .folder) (hx : x ≠ .folder) :
    Grown folders files t (t.put q x) := by
  have hroot : q ≠ [] := by
    rintro rfl
    exact hentry (get?_nil t)
  intro r
  by_cases hr : r = q
  · rw [hr, get?_put_self hroot]
    exact .file hq hentry hx
  · rw [get?_put_of_ne hr]
    exact .same _

/-- A folder at a free place is growth. -/
theorem grown_putFolder (hq : q ∈ folders) (hnone : t.get? q = none) :
    Grown folders files t (t.put q .folder) := by
  have hroot : q ≠ [] := by
    rintro rfl
    exact absurd hnone nofun
  intro r
  by_cases hr : r = q
  · rw [hr, get?_put_self hroot, hnone]
    exact .folder hq
  · rw [get?_put_of_ne hr]
    exact .same _

/-- Creating the folders that parts lead through. -/
theorem grown_makeFolders (h : t.makeFolders start parts = .ok (u, place))
    (hfolders : passed start parts ⊆ folders) : Grown folders files t u := by
  induction parts generalizing t start with
  | nil =>
    simp only [makeFolders, Except.ok.injEq, Prod.mk.injEq] at h
    rw [← h.1]
    exact .refl _ _ t
  -- a folder that is made was not there before, so each step only adds
  | cons part rest ih =>
    rw [makeFolders] at h
    rw [passed] at hfolders
    split at h
    · cases h
    · next p hp =>
      rw [hp, List.cons_subset] at hfolders
      split at h
      · exact ih h hfolders.2
      · next hnone => exact (grown_putFolder hfolders.1 hnone).trans (ih h hfolders.2)
      · cases h

/-! ## Trees that differ at one file

Making folders along a path does not look at what files hold, so it goes alike in trees that differ
in that. -/

/-- Where trees differ at one place alone, and a file stands there in both, the folders that parts
lead through can be made in the second if they can be made in the first. -/
theorem makeFolders_congr {y : Entry α} {t' : Tree α} (hsame : ∀ r, r ≠ q → t'.get? r = t.get? r)
    (hx : t.get? q = some x) (hfile : x ≠ .folder) (hy : t'.get? q = some y)
    (h : t.makeFolders start parts = .ok (u, place)) :
    ∃ u', t'.makeFolders start parts = .ok (u', place) ∧ ∀ r, r ≠ q → u'.get? r = u.get? r := by
  induction parts generalizing t t' start with
  | nil =>
    simp only [makeFolders, Except.ok.injEq, Prod.mk.injEq] at h
    obtain ⟨rfl, rfl⟩ := h
    exact ⟨t', rfl, hsame⟩
  | cons part rest ih =>
    rw [makeFolders] at h ⊢
    split at h
    · cases h
    · next p hp =>
      -- the file is at no place where a folder stands or nothing does
      have hne : p ≠ q ∨ (t.get? p ≠ some .folder ∧ t.get? p ≠ none) := by
        by_cases hpq : p = q
        · rw [hpq, hx]
          exact .inr ⟨fun heq => hfile (Option.some.inj heq), by simp⟩
        · exact .inl hpq
      split at h
      · next hfolder =>
        have hpq : p ≠ q := hne.resolve_right fun hr => hr.1 hfolder
        rw [hsame p hpq, hfolder]
        exact ih hsame hx hy h
      · next hnone =>
        have hpq : p ≠ q := hne.resolve_right fun hr => hr.2 hnone
        have hroot : p ≠ [] := by
          rintro rfl
          cases hnone
        rw [hsame p hpq, hnone]
        -- the folder is made in both, and still only the file differs
        refine ih (fun r hr => ?_) ?_ ?_ h
        · by_cases hrp : r = p
          · rw [hrp, get?_put_self hroot, get?_put_self hroot]
          · rw [get?_put_of_ne hrp, get?_put_of_ne hrp]
            exact hsame r hr
        · rw [get?_put_of_ne (Ne.symm hpq)]
          exact hx
        · rw [get?_put_of_ne (Ne.symm hpq)]
          exact hy
      · cases h

end Tree

/-- The bytes of a file, and none for a folder. -/
def Entry.bytes {α : Type} : Entry α → ByteArray
  | .folder => .empty
  | .file bytes => bytes
  | .artifact _ bytes => bytes

/-! ## Paths

The same for paths, which start at the root or in some folder. -/

namespace Path

/-- The folders on the way to a path, and the path itself if it is one. -/
def passes (folder : Place) (p : Path) : List Place :=
  Tree.passed (if p.isAbsolute then [] else folder) p.parts

/-- The place of a path, whatever stands on the way. -/
def place? (folder : Place) (p : Path) : Option Place :=
  Tree.ends? (if p.isAbsolute then [] else folder) p.parts

end Path

namespace Tree

variable {α : Type} {t u : Tree α} {folders files : List Place} {folder q : Place} {path : Path}

theorem place?_of_locate (h : t.locate folder path = .ok q) : path.place? folder = some q :=
  ends?_of_walk h

theorem place?_of_makeFolder (h : t.makeFolder folder path = .ok (u, q)) :
    path.place? folder = some q :=
  ends?_of_makeFolders h

/-- What can be read is read again when something was made or written elsewhere. -/
theorem at?_grown {x : Entry α} (h : Grown folders files t u) (hat : t.at? folder path = some x)
    (hfiles : ∀ q, path.place? folder = some q → q ∉ files) : u.at? folder path = some x := by
  rw [at?] at hat ⊢
  rcases hplace : t.locate folder path with f | q <;> rw [hplace] at hat
  · exact absurd hat nofun
  · rw [show u.locate folder path = .ok q from walk_grown h hplace]
    exact h.get?_eq hat (hfiles q (place?_of_locate hplace))

/-- A folder that is there stays there. -/
theorem at?_folder_grown (h : Grown folders files t u)
    (hat : t.at? folder path = some .folder) : u.at? folder path = some .folder := by
  rw [at?] at hat ⊢
  rcases hplace : t.locate folder path with f | q <;> rw [hplace] at hat
  · exact absurd hat nofun
  · rw [show u.locate folder path = .ok q from walk_grown h hplace]
    exact h.isFolder hat

/-! ## Files that are there

A file that is there can be created again without a change, and lines can be appended to it. This is
the state that log files are in once a session is set up. -/

/-- What stands at the end of a path, if it is no folder, is read there. -/
theorem bytesAt_of_at? {x : Entry α} (hat : t.at? folder path = some x) (hx : x ≠ .folder) :
    t.bytesAt folder path = .ok x.bytes := by
  rw [at?] at hat
  rcases hplace : t.locate folder path with f | q <;> rw [hplace] at hat
  · exact absurd hat nofun
  replace hat : t.get? q = some x := hat
  rw [bytesAt, hplace]
  simp only [bind, Except.bind, hat]
  cases x with
  | folder => exact absurd rfl hx
  | file bytes => rfl
  | artifact x => rfl

/-- A file stands at a path, and the folders of the path are there. -/
structure HasFile (t : Tree α) (folder : Place) (path : Path) : Prop where
  leads : ∃ below, t.Leads (if path.parent.isAbsolute then [] else folder) path.parent.parts below
  file : ∃ q x, t.locate folder path = .ok q ∧ t.get? q = some x ∧ x ≠ .folder

/-- A file that is there stays there, perhaps with other bytes. -/
theorem HasFile.grown (h : t.HasFile folder path) (hgrown : Grown folders files t u) :
    u.HasFile folder path := by
  obtain ⟨⟨below, hleads⟩, q, x, hplace, hq, hx⟩ := h
  obtain ⟨y, hy, hfile⟩ := hgrown.isFile hq hx
  exact ⟨⟨below, hleads.grown hgrown⟩, q, y, walk_grown hgrown hplace, hy, hfile⟩

end Tree

namespace Log

variable {α : Type} {t u : Tree α} {folder : Place} {path : Path}

/-- A file that is there is created again without a change. -/
theorem createFile_of_hasFile (h : t.HasFile folder path) : createFile t folder path = .ok t := by
  obtain ⟨⟨below, hleads⟩, q, x, hplace, hq, hx⟩ := h
  have hmake : t.makeFolder folder path.parent = .ok (t, below) := hleads
  have hat : t.at? folder path = some x := by
    rw [Tree.at?, hplace]
    exact hq
  rw [createFile, hmake]
  simp only [bind, Except.bind, hat]
  cases x with
  | folder => exact absurd rfl hx
  | file => rfl
  | artifact => rfl

/-- An empty file that is put where nothing stands. -/
theorem of_putFile_empty {folders : List Place} {below : Place}
    (hleads : t.Leads (if path.parent.isAbsolute then [] else folder) path.parent.parts below)
    (hat : t.at? folder path = none) (h : t.putFile folder path .empty = .ok u) :
    u.HasFile folder path ∧ (∀ q x, t.get? q = some x → u.get? q = some x) ∧
    Tree.Grown folders (path.place? folder).toList t u := by
  simp only [Tree.putFile] at h
  rcases hplace : t.locate folder path with f | q <;> rw [hplace] at h
  · cases h
  have hnone : t.get? q = none := by rwa [Tree.at?, hplace] at hat
  simp only [bind, Except.bind, hnone] at h
  obtain rfl := Except.ok.inj h
  -- the place is free, so it is no folder and not the root
  have hnot : t.get? q ≠ some .folder := by
    simp [hnone]
  have hroot : q ≠ [] := by
    rintro rfl
    exact hnot (Tree.get?_nil t)
  have hmem : q ∈ (path.place? folder).toList := by
    rw [Tree.place?_of_locate hplace]
    exact List.mem_singleton_self q
  refine ⟨⟨⟨below, hleads.put hnot⟩, q, _, Tree.walk_put hplace hnot, Tree.get?_put_self hroot,
    by simp⟩, fun r x hr => ?_, Tree.grown_put hmem hnot (by simp)⟩
  rw [Tree.get?_put_of_ne]
  · exact hr
  · rintro rfl
    rw [hnone] at hr
    cases hr

/-- **Creating a file.** It is there afterwards, what stood in the tree still stands there, and
nothing has changed but the file and the folders on its way. -/
theorem of_createFile (h : createFile t folder path = .ok u) : u.HasFile folder path ∧
    (∀ q x, t.get? q = some x → u.get? q = some x) ∧
    Tree.Grown (path.parent.passes folder) (path.place? folder).toList t u := by
  rw [createFile] at h
  rcases hmake : t.makeFolder folder path.parent with f | ⟨made, below⟩
  · rw [hmake] at h
    cases h
  rw [hmake] at h
  simp only [bind, Except.bind] at h
  have hleads := Tree.leads_of_makeFolders hmake
  have hgrown : Tree.Grown (path.parent.passes folder) (path.place? folder).toList t made :=
    Tree.grown_makeFolders hmake (List.Subset.refl _)
  have hstays : ∀ q x, t.get? q = some x → made.get? q = some x :=
    fun _ _ => Tree.get?_of_makeFolders hmake
  rcases hat : made.at? folder path with _ | x <;> rw [hat] at h
  · obtain ⟨hfile, hstays', hgrown'⟩ := of_putFile_empty hleads hat h
    exact ⟨hfile, fun q x hq => hstays' q x (hstays q x hq), hgrown.trans hgrown'⟩
  · -- something stands there that is no folder
    obtain ⟨hx, rfl⟩ : x ≠ .folder ∧ made = u := by
      cases x with
      | folder => cases h
      | file => exact ⟨by simp, Except.ok.inj h⟩
      | artifact => exact ⟨by simp, Except.ok.inj h⟩
    rw [Tree.at?] at hat
    rcases hplace : made.locate folder path with f | q <;> rw [hplace] at hat
    · cases hat
    exact ⟨⟨⟨below, hleads⟩, q, x, hplace, hat, hx⟩, hstays, hgrown⟩

/-- The files that sinks write to. -/
def filesOf (sinks : List Sink) : List Path :=
  sinks.filterMap fun s => match s.destination with
    | .file path => some path
    | _ => none

/-- The files of sinks are those of the first and those of the others; streams have none. -/
theorem filesOf_cons (s : Sink) (rest : List Sink) : filesOf (s :: rest) =
    match s.destination with
    | .file path => path :: filesOf rest
    | _ => filesOf rest := by
  rw [filesOf, List.filterMap_cons]
  rcases s.destination with _ | _ | path
  · rfl
  · rfl
  · rfl

variable {sinks : List Sink}

/-- The files of sinks that are there are created again without a change. -/
theorem createFiles_of_hasFile (h : ∀ p ∈ filesOf sinks, t.HasFile folder p) :
    createFiles folder sinks t = (t, none) := by
  induction sinks with
  | nil => rfl
  | cons s rest ih =>
    rw [createFiles]
    rw [filesOf_cons] at h
    -- only a sink on a file asks for anything, and that file is there
    rcases hd : s.destination with _ | _ | path <;> rw [hd] at h
    · exact ih h
    · exact ih h
    · rw [List.forall_mem_cons] at h
      simp only [createFile_of_hasFile h.1]
      exact ih h.2

/-- **Creating the files of sinks.** They are all there afterwards, what stood in the tree still
stands there, and nothing has changed but these files and the folders on their ways. -/
theorem of_createFiles (h : createFiles folder sinks t = (u, none)) :
    (∀ p ∈ filesOf sinks, u.HasFile folder p) ∧ (∀ q x, t.get? q = some x → u.get? q = some x) ∧
    Tree.Grown ((filesOf sinks).flatMap fun p => p.parent.passes folder)
      ((filesOf sinks).filterMap (·.place? folder)) t u := by
  induction sinks generalizing t with
  | nil =>
    obtain ⟨rfl, -⟩ := Prod.mk.inj h
    exact ⟨nofun, fun _ _ hq => hq, .refl _ _ _⟩
  | cons s rest ih =>
    rw [createFiles] at h
    rw [filesOf_cons]
    rcases hd : s.destination with _ | _ | path <;> rw [hd] at h
    · exact ih h
    · exact ih h
    dsimp only at h ⊢
    rcases hcreate : createFile t folder path with f | made
    · rw [hcreate] at h
      exact absurd (Prod.mk.inj h).2 nofun
    rw [hcreate] at h
    obtain ⟨hfile, hstays, hgrown⟩ := of_createFile hcreate
    obtain ⟨hrest, hstays', hgrown'⟩ := ih h
    refine ⟨?_, fun q x hq => hstays' q x (hstays q x hq), ?_⟩
    · -- the first file is still there after the others were created
      rw [List.forall_mem_cons]
      exact ⟨hfile.grown hgrown', hrest⟩
    · refine (hgrown.mono ?_ ?_).trans (hgrown'.mono ?_ ?_)
      · rw [List.flatMap_cons]
        exact List.subset_append_left _ _
      · intro q hq
        exact List.mem_filterMap.mpr ⟨path, List.mem_cons_self, Option.mem_toList.mp hq⟩
      · rw [List.flatMap_cons]
        exact List.subset_append_right _ _
      · intro q hq
        obtain ⟨p, hp, hplace⟩ := List.mem_filterMap.mp hq
        exact List.mem_filterMap.mpr ⟨p, List.mem_cons_of_mem _ hp, hplace⟩

/-! ## Lines in files

A line goes to the end of its file, and the tree has grown by at most that file. -/

/-- **A line at the end of a file** stands behind what the file held. -/
theorem appendLine_eq_put (h : t.HasFile folder path) (line : String) :
    ∃ q x, path.place? folder = some q ∧ t.get? q = some x ∧ x ≠ .folder ∧
      appendLine t folder path line = t.put q (.file (x.bytes ++ (line ++ "\n").toUTF8)) := by
  obtain ⟨-, q, x, hplace, hq, hx⟩ := h
  -- the content is read where the line is written, since both go by the same place
  have hbytes : t.bytesAt folder path = .ok x.bytes := by
    refine Tree.bytesAt_of_at? ?_ hx
    rw [Tree.at?, hplace]
    exact hq
  refine ⟨q, x, Tree.place?_of_locate hplace, hq, hx, ?_⟩
  rw [appendLine, hbytes]
  dsimp only
  rw [Tree.putFile, hplace]
  simp only [bind, Except.bind, hq]
  cases x with
  | folder => exact absurd rfl hx
  | file => rfl
  | artifact => rfl

/-- A line at the end of a file changes that file and nothing else. -/
theorem of_appendLine (h : t.HasFile folder path) (line : String) :
    ∃ q x bytes, path.place? folder = some q ∧ t.get? q = some x ∧ x ≠ .folder ∧
      appendLine t folder path line = t.put q (.file bytes) := by
  obtain ⟨q, x, hplace, hq, hx, happend⟩ := appendLine_eq_put h line
  exact ⟨q, x, _, hplace, hq, hx, happend⟩

end Log

end CodeCatalog
