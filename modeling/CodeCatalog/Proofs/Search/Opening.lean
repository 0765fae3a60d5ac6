/-
What opening finds, and what closing leaves for the next opening.

Opening goes through the folder of an index, the list of its files and the kept collection, and each
of the three may have to be made first. `Opens` says which files an opening finds and leaves. What
it leaves is `Kept`: everything is there, so the next opening finds the same place and the same
collection and makes nothing. A commit replaces the kept collection and leaves the rest, so an index
that is opened again shows its last commit.

One triple serves both directions. Without a promise it says what an opening that succeeded has
found; with the promise that there is something to be found, it says that the opening succeeds.
-/
import CodeCatalog.Proofs.Json.RoundTrip
import CodeCatalog.Proofs.Search.Writing
import CodeCatalog.Proofs.Storage.Growth
import CodeCatalog.Proofs.Store.History
import CodeCatalog.Proofs.Text.Within

set_option autoImplicit false

namespace CodeCatalog.Search

open Act Log Desk

/-! ## Kept collections

What an opening will find is told by the files: a folder that can be made, a list, and a state file
or none. `Opens` puts these together with what the opening leaves. -/

/-- Everything that opening looks for is in the files: the folders of the path, a list of files that
is in order, and a collection. -/
structure Kept (files : Tree Artifact) (folder path : Path) (place : Place) (c : Collection) :
    Prop where
  leads : files.Leads (if path.isAbsolute then [] else folder.parts) path.parts place
  list : ∃ bytes, files.get? (place ++ [listFile]) = some (.file bytes) ∧
    listObstacle? bytes = none
  state : files.value? (place ++ [stateFile]) = some (.collection c)

/-- What an opening does about the list of files. -/
inductive FindsList (files : Tree Artifact) (place : Place) : Tree Artifact → Prop
  | there {bytes : ByteArray} (hfile : files.get? (place ++ [listFile]) = some (.file bytes))
      (hlist : listObstacle? bytes = none) : FindsList files place files
  | made (hnone : files.get? (place ++ [listFile]) = none) :
      FindsList files place (files.put (place ++ [listFile]) (.file firstList))

/-- What an opening does about the collection. -/
inductive FindsState (files : Tree Artifact) (place : Place) : Collection → Tree Artifact → Prop
  | there {c : Collection}
      (hstate : files.value? (place ++ [stateFile]) = some (.collection c)) :
      FindsState files place c files
  | made (hstate : files.get? (place ++ [stateFile]) = none ∨
        ∃ bytes, files.get? (place ++ [stateFile]) = some (.file bytes) ∧
          stateObstacle? bytes = none) :
      FindsState files place {} (files.put (place ++ [stateFile]) (Artifact.collection {}).entry)

/-- The writer of an index can be taken. -/
def TakesWriter (shelf : Shelf) (i : Index) (place : Place) : Prop :=
  ∃ heap threads, machineWord i.heap = .ok heap ∧ machineWord i.threads = .ok threads ∧
    shelf.held.contains place = false ∧ heapFits shelf.processors heap threads = true

/-- **What an opening finds**: a place with a collection; and the files that it leaves. -/
structure Opens (shelf : Shelf) (i : Index) (place : Place) (c : Collection)
    (files : Tree Artifact) : Prop where
  free : i.key ∉ shelf.claimed
  files : ∃ made listed, shelf.files.makeFolder shelf.folder.parts i.path = .ok (made, place) ∧
    FindsList made place listed ∧ FindsState listed place c files
  writer : TakesWriter shelf i place

/-! ## The first list

An index that is new writes a list with one file in it, and finds nothing wrong with that later. -/

/-- The first list that is written is in order. -/
theorem listObstacle?_firstList : listObstacle? firstList = none := by
  have hplain : Json.Plain Json.maxDepth (.list [.text stateFile]) := by
    refine Json.Plain.list fun v hv => ?_
    rw [List.mem_singleton.mp hv]
    exact .text _
  have htext : String.fromUTF8? firstList = some (Json.render (.list [.text stateFile])) :=
    dif_pos (Json.render (.list [.text stateFile])).isValidUTF8
  rw [listObstacle?, htext, Option.bind_some, Json.read_render hplain]
  rfl

/-! ## Text behind the state

A state file is one JSON text. With more behind it than blanks, a line of a log say, it stands for
no collection any more, and what the engine says about it quotes the whole file. The settings in
there speak of a block size, so the quotation has "lock" in it, and an opening takes it for a report
that somebody holds the index. -/

/-- A text that mentions a lock still does with more behind it. Without a capital sigma, none of its
letters has a lower case that depends on what follows. -/
theorem mentionsLock_append {text : String} (h : mentionsLock text = true)
    (hplain : 'Σ' ∉ text.toList) (rest : String) : mentionsLock (text ++ rest) = true := by
  rw [mentionsLock, Store.isInside_iff] at h ⊢
  have hown : Text.lowerWithin [] text.toList rest.toList = Text.lowerChars text.toList := by
    rw [Text.lowerChars, ← Text.lowerWithin_nil, Text.lowerWithin_eq_iff]
    intro xs ys htext
    exact absurd (htext ▸ List.mem_append_right xs List.mem_cons_self) hplain
  rw [String.toList_append, Text.lowerChars, Text.lowerFrom_append, hown]
  exact h.trans (List.prefix_append _ _).isInfix

/-- **A state with text behind it passes for a locked index**, whatever the text is. -/
theorem stateObstacle?_behind {rest : String} (hrest : Json.skipSpace rest.toList ≠ []) :
    stateObstacle? (stateText ++ rest).toUTF8 =
      some ⟨"The text describes no index: " ++ (stateText ++ rest), true⟩ := by
  have hplain : Json.Plain Json.maxDepth (.object [("index_settings", .object usualSettings)]) := by
    refine .object (by decide) (List.forall_mem_singleton.mpr (.object (by decide) ?_))
    simp only [usualSettings, List.forall_mem_cons]
    exact ⟨.text _, .int (by decide), nofun⟩
  have hread : Json.read (stateText ++ rest) = Json.fault .extraData := by
    have hchars : (stateText ++ rest).toList =
        Json.renderChars (.object [("index_settings", .object usualSettings)]) ++
          '\n' :: rest.toList := by
      rw [stateText, Json.render, String.toList_append, String.toList_append, String.toList_ofList,
        List.append_assoc]
      rfl
    rw [Json.read, hchars]
    refine Json.readChars_behind hplain (Json.ends_cons (by decide)) ?_
    rw [Json.skipSpace, List.dropWhile_cons_of_pos (by decide)]
    exact hrest
  have hlock : mentionsLock (stateText ++ rest) = true :=
    mentionsLock_append (by decide +kernel) (by decide +kernel) rest
  have hbytes : String.fromUTF8? (stateText ++ rest).toUTF8 = some (stateText ++ rest) :=
    dif_pos (stateText ++ rest).isValidUTF8
  rw [stateObstacle?, hbytes]
  simp only [hread, hlock]
  rfl

/-! ## Finding again

What was opened or kept is found again, and what is found is unique. -/

variable {files listed made : Tree Artifact} {folder path : Path} {place : Place} {c : Collection}
  {shelf : Shelf} {i : Index}

theorem list_ne_state (place : Place) : place ++ [listFile] ≠ place ++ [stateFile] := by
  intro h
  exact absurd (List.append_cancel_left h) (by decide)

theorem append_singleton_ne_nil (place : Place) (name : String) : place ++ [name] ≠ [] := by
  simp

/-- Giving up a claim that was free to make leaves the claims of others. -/
theorem filter_claim (hfree : i.key ∉ shelf.claimed) :
    (i.key :: shelf.claimed).filter (· ≠ i.key) = shelf.claimed := by
  rw [List.filter_cons_of_neg (by simp), List.filter_eq_self]
  intro key hkey
  exact decide_eq_true fun heq => hfree (heq ▸ hkey)

/-- What an opening leaves is kept. -/
theorem Opens.kept (h : Opens shelf i place c files) : Kept files shelf.folder i.path place c := by
  obtain ⟨made, listed, hmade, hlist, hstate⟩ := h.files
  have hleads := Tree.leads_of_makeFolders hmade
  -- the list is there, and the folders still are
  have hlisted : listed.Leads (if i.path.isAbsolute then [] else shelf.folder.parts) i.path.parts
      place ∧ ∃ bytes, listed.get? (place ++ [listFile]) = some (.file bytes) ∧
        listObstacle? bytes = none := by
    rcases hlist with ⟨hfile, hok⟩ | hnone
    · exact ⟨hleads, _, hfile, hok⟩
    · refine ⟨hleads.put ?_, _, Tree.get?_put_self (append_singleton_ne_nil _ _),
        listObstacle?_firstList⟩
      rw [hnone]
      nofun
  obtain ⟨hleads, bytes, hfile, hok⟩ := hlisted
  rcases hstate with hstate | hstate
  · exact ⟨hleads, ⟨bytes, hfile, hok⟩, hstate⟩
  · refine ⟨hleads.put ?_, ⟨bytes, ?_, hok⟩, Tree.value?_put_self (append_singleton_ne_nil _ _)⟩
    · rcases hstate with hnone | ⟨old, hold, -⟩
      · rw [hnone]
        nofun
      · rw [hold]
        nofun
    · rw [Tree.get?_put_of_ne (list_ne_state place)]
      exact hfile

/-- What is kept is found, and nothing has to be made. -/
theorem Kept.opens (h : Kept shelf.files shelf.folder i.path place c)
    (hfree : i.key ∉ shelf.claimed) (hwriter : TakesWriter shelf i place) :
    Opens shelf i place c shelf.files := by
  obtain ⟨bytes, hfile, hok⟩ := h.list
  exact ⟨hfree, ⟨shelf.files, shelf.files, h.leads, .there hfile hok, .there h.state⟩, hwriter⟩

/-- Where nothing lies in the folder of the index, everything is made, and nothing is found. -/
theorem Opens.fresh {made : Tree Artifact} (hfree : i.key ∉ shelf.claimed)
    (hmade : shelf.files.makeFolder shelf.folder.parts i.path = .ok (made, place))
    (hlist : made.get? (place ++ [listFile]) = none)
    (hstate : made.get? (place ++ [stateFile]) = none) (hwriter : TakesWriter shelf i place) :
    ∃ files, Opens shelf i place {} files := by
  refine ⟨_, hfree, ⟨made, _, hmade, .made hlist, .made (.inl ?_)⟩, hwriter⟩
  rw [Tree.get?_put_of_ne (list_ne_state place).symm]
  exact hstate

/-- Where no collection was kept, none is found. -/
theorem Opens.eq_empty (h : Opens shelf i place c files)
    (hnone : shelf.files.get? (place ++ [stateFile]) = none) : c = {} := by
  obtain ⟨made, listed, hmade, hlist, hstate⟩ := h.files
  have hmissing : made.value? (place ++ [stateFile]) ≠ some (.collection c) := by
    intro hmem
    obtain ⟨bytes, hentry⟩ := Tree.exists_artifact hmem
    rw [Tree.get?_before_makeFolders hmade hentry nofun] at hnone
    exact absurd hnone nofun
  -- without a state file there is nothing for the opening to find, so it keeps an empty collection
  rcases hstate with hstate | hstate
  · rcases hlist with ⟨-, -⟩ | -
    · exact absurd hstate hmissing
    · rw [Tree.value?_put_of_ne (list_ne_state place).symm] at hstate
      exact absurd hstate hmissing
  · rfl

/-- What is found of a list is unique. -/
theorem FindsList.unique {listed' : Tree Artifact} (h : FindsList files place listed)
    (h' : FindsList files place listed') : listed' = listed := by
  rcases h with ⟨hfile, -⟩ | hnone <;> rcases h' with ⟨hfile', -⟩ | hnone'
  · rfl
  · rw [hfile] at hnone'
    exact absurd hnone' nofun
  · rw [hnone] at hfile'
    exact absurd hfile' nofun
  · rfl

/-- What is found of a state is unique. -/
theorem FindsState.unique {c' : Collection} {files' : Tree Artifact}
    (h : FindsState listed place c files) (h' : FindsState listed place c' files') :
    c' = c ∧ files' = files := by
  -- a state file that stands for a collection is none of those that an empty one replaces
  rcases h with hstate | hstate <;> rcases h' with hstate' | hstate'
  · rw [hstate] at hstate'
    exact ⟨(Artifact.collection.inj (Option.some.inj hstate')).symm, rfl⟩
  · obtain ⟨bytes, hentry⟩ := Tree.exists_artifact hstate
    rw [hentry] at hstate'
    rcases hstate' with h | ⟨bytes, h, -⟩ <;> exact absurd h nofun
  · obtain ⟨bytes, hentry⟩ := Tree.exists_artifact hstate'
    rw [hentry] at hstate
    rcases hstate with h | ⟨bytes, h, -⟩ <;> exact absurd h nofun
  · exact ⟨rfl, rfl⟩

/-- Two openings of the same files find the same. -/
theorem Opens.unique {i' : Index} {place' : Place} {c' : Collection} {files' : Tree Artifact}
    {shelf' : Shelf} (h : Opens shelf i place c files) (h' : Opens shelf' i' place' c' files')
    (hfiles : shelf'.files = shelf.files) (hfolder : shelf'.folder = shelf.folder)
    (hpath : i'.path = i.path) : place' = place ∧ c' = c ∧ files' = files := by
  obtain ⟨made, listed, hmade, hlist, hstate⟩ := h.files
  obtain ⟨made', listed', hmade', hlist', hstate'⟩ := h'.files
  rw [hfiles, hfolder, hpath, hmade] at hmade'
  obtain ⟨rfl, rfl⟩ := Prod.mk.inj (Except.ok.inj hmade')
  have hlisted := hlist.unique hlist'
  subst hlisted
  exact ⟨rfl, hstate.unique hstate'⟩

/-- What is kept is what an opening finds. -/
theorem Kept.unique {place' : Place} {c' : Collection}
    (h : Kept shelf.files shelf.folder i.path place c)
    (h' : Opens shelf i place' c' files) : place' = place ∧ c' = c := by
  obtain ⟨made, listed, hmade, hlist, hstate⟩ := h'.files
  obtain ⟨rfl, rfl⟩ := Prod.mk.inj (Except.ok.inj (h.leads.symm.trans hmade))
  obtain ⟨bytes, hfile, hok⟩ := h.list
  have hlisted := (FindsList.there hfile hok).unique hlist
  subst hlisted
  exact ⟨rfl, ((FindsState.there h.state).unique hstate).1⟩

/-- A commit is kept in place of the one before it. -/
theorem Kept.keep {old : Collection} (h : Kept shelf.files folder path place old)
    (c : Collection) : Kept (shelf.keep place c).files folder path place c where
  leads := by
    obtain ⟨bytes, hstate⟩ := Tree.exists_artifact h.state
    refine h.leads.put ?_
    rw [hstate]
    nofun
  list := by
    obtain ⟨bytes, hfile, hok⟩ := h.list
    refine ⟨bytes, ?_, hok⟩
    show (shelf.files.put _ _).get? _ = _
    rw [Tree.get?_put_of_ne (list_ne_state place)]
    exact hfile
  state := Tree.value?_put_self (append_singleton_ne_nil _ _)

/-- What is kept at one place in two shelves is the same if they hold the same there. -/
theorem Shelf.keep_inj {shelf' : Shelf} {c' : Collection}
    (h : (shelf.keep place c).files.value? (place ++ [stateFile]) =
      (shelf'.keep place c').files.value? (place ++ [stateFile])) : c = c' := by
  have hkept : ∀ (shelf : Shelf) (c : Collection),
      (shelf.keep place c).files.value? (place ++ [stateFile]) = some (.collection c) :=
    fun _ _ => Tree.value?_put_self (append_singleton_ne_nil _ _)
  rw [hkept, hkept] at h
  exact Artifact.collection.inj (Option.some.inj h)

/-! ## What an opening makes

An opening makes the folders on the way, and the two files if they are not there. Everything apart
from these is as before. -/

/-- The place of an index is that of its path. -/
theorem Opens.place? (h : Opens shelf i place c files) :
    i.path.place? shelf.folder.parts = some place := by
  obtain ⟨made, listed, hmade, -⟩ := h.files
  exact Tree.place?_of_makeFolder hmade

/-- An opening makes the folders of the index, its list of files and its state, and nothing else. -/
theorem Opens.grown (h : Opens shelf i place c files) :
    Tree.Grown (i.path.passes shelf.folder.parts) [place ++ [listFile], place ++ [stateFile]]
      shelf.files files := by
  -- opening makes the folders, then the file list, then the state file; each of the three steps
  -- only adds
  obtain ⟨made, listed, hmade, hlist, hstate⟩ := h.files
  have hmake : Tree.Grown (i.path.passes shelf.folder.parts)
      [place ++ [listFile], place ++ [stateFile]] shelf.files made :=
    Tree.grown_makeFolders hmade (List.Subset.refl _)
  have hlisted : Tree.Grown (i.path.passes shelf.folder.parts)
      [place ++ [listFile], place ++ [stateFile]] made listed := by
    rcases hlist with ⟨-, -⟩ | hnone
    · exact .refl _ _ _
    · exact Tree.grown_put (by simp) (by simp [hnone]) (by simp)
  have hkept : Tree.Grown (i.path.passes shelf.folder.parts)
      [place ++ [listFile], place ++ [stateFile]] listed files := by
    rcases hstate with - | hmissing
    · exact .refl _ _ _
    · refine Tree.grown_put (by simp) ?_ (by simp [Artifact.entry])
      rcases hmissing with hnone | ⟨bytes, hbytes, -⟩
      · simp [hnone]
      · simp [hbytes]
  exact (hmake.trans hlisted).trans hkept

/-- What an opening does about the list depends on what stands in its place. -/
theorem FindsList.congr {files' : Tree Artifact} (h : FindsList files place listed)
    (hlist : files'.get? (place ++ [listFile]) = files.get? (place ++ [listFile]))
    (hstate : files'.get? (place ++ [stateFile]) = files.get? (place ++ [stateFile])) :
    ∃ listed', FindsList files' place listed' ∧
      listed'.get? (place ++ [stateFile]) = listed.get? (place ++ [stateFile]) := by
  rcases h with ⟨hfile, hok⟩ | hnone
  · exact ⟨files', .there (hlist.trans hfile) hok, hstate⟩
  · refine ⟨_, .made (hlist.trans hnone), ?_⟩
    rw [Tree.get?_put_of_ne (list_ne_state place).symm,
      Tree.get?_put_of_ne (list_ne_state place).symm]
    exact hstate

/-- What an opening does about the collection depends on what stands in its place. -/
theorem FindsState.congr {listed' : Tree Artifact} (h : FindsState listed place c files)
    (hstate : listed'.get? (place ++ [stateFile]) = listed.get? (place ++ [stateFile])) :
    ∃ files', FindsState listed' place c files' := by
  rcases h with h | h
  · refine ⟨listed', .there ?_⟩
    rw [Tree.value?, hstate]
    exact h
  · exact ⟨_, .made (hstate.symm ▸ h)⟩

/-- Writing to a file that is none of the index's own does not change what an opening finds. -/
theorem Opens.put {q : Place} {x : Entry Artifact}
    (h : Opens shelf i place c files) (hq : shelf.files.get? q = some x) (hx : x ≠ .folder)
    (hapart : q ∉ [place ++ [listFile], place ++ [stateFile]]) (bytes : ByteArray) :
    ∃ files', Opens { shelf with files := shelf.files.put q (.file bytes) } i place c files' := by
  obtain ⟨made, listed, hmade, hlist, hstate⟩ := h.files
  have hroot : q ≠ [] := by
    rintro rfl
    rw [Tree.get?_nil] at hq
    exact hx (Option.some.inj hq).symm
  have hne : place ++ [listFile] ≠ q ∧ place ++ [stateFile] ≠ q := by
    simp only [List.mem_cons, List.not_mem_nil, or_false, not_or] at hapart
    exact ⟨Ne.symm hapart.1, Ne.symm hapart.2⟩
  obtain ⟨made', hmade', hsame⟩ := Tree.makeFolders_congr
    (fun r hr => Tree.get?_put_of_ne (t := shelf.files) hr) hq hx (Tree.get?_put_self hroot) hmade
  -- the list and the state are where they were, or are missing as they were
  obtain ⟨listed', hlist', hsame'⟩ := hlist.congr (hsame _ hne.1) (hsame _ hne.2)
  obtain ⟨files', hstate'⟩ := hstate.congr hsame'
  exact ⟨files', h.free, ⟨made', listed', hmade', hlist', hstate'⟩, h.writer⟩

/-! ## Opening

The steps of an opening, each with what it needs and what it leaves. With `sure` they succeed where
`Opens` says so; without, a success says that `Opens` holds. -/

namespace Desk

variable {sure : Prop} {d : Desk}

/-- An opening that is given up has failed, so nothing was sure. -/
theorem triple_giveUp {α : Type} {locked : Bool} {reason : String} {P : Desk → Prop}
    {Q : α → Desk → Prop} (hP : ∀ d, P d → ¬ sure) : Triple sure P (giveUp locked reason) Q := by
  refine Triple.of_never (fun d x t h => ?_) hP
  rw [giveUp] at h
  obtain ⟨_, d₁, -, h⟩ := outcome_bind_ok.mp h
  obtain ⟨_, d₂, -, h⟩ := outcome_bind_ok.mp h
  obtain ⟨_, d₃, -, h⟩ := outcome_bind_ok.mp h
  cases locked <;> exact absurd h (by simp)

/-- A desk with another shelf. -/
def withShelf (d : Desk) (shelf : Shelf) : Desk :=
  { d with shelf := shelf }

/-- A free path is claimed, and the claim is all that changes. -/
theorem triple_claim (hfree : sure → d.index.key ∉ d.shelf.claimed) :
    Triple sure (· = d) claim fun _ t => d.index.key ∉ d.shelf.claimed ∧
      t = d.withShelf { d.shelf with claimed := d.index.key :: d.shelf.claimed } := by
  refine Triple.bind_get_at ?_
  -- a path that is claimed is refused, and the state is the one before
  by_cases hkey : d.shelf.claimed.contains d.index.key
  · rw [if_pos hkey]
    refine Triple.of_never (fun s x t h => ?_) ?_
    · rw [outcome_bind] at h
      exact absurd h nofun
    · exact fun _ _ hsure => hfree hsure (List.contains_iff_mem.mp hkey)
  · rw [if_neg hkey]
    refine Triple.modify ?_
    rintro _ rfl
    exact ⟨fun hmem => hkey (List.contains_iff_mem.mpr hmem), rfl⟩

/-- The folder of the index is made if need be, and nothing else changes. -/
theorem triple_openFolder (hmake : sure → ∃ r, d.shelf.files.makeFolder d.shelf.folder.parts
      d.index.path = .ok r) :
    Triple sure (· = d) openFolder fun place t => ∃ made,
      d.shelf.files.makeFolder d.shelf.folder.parts d.index.path = .ok (made, place) ∧
        t = d.withShelf { d.shelf with files := made } := by
  refine Triple.bind_get_at ?_
  rcases hmade : d.shelf.files.makeFolder d.shelf.folder.parts d.index.path with f | ⟨made, place⟩
  · refine triple_giveUp fun _ _ hsure => ?_
    obtain ⟨r, hr⟩ := hmake hsure
    rw [hmade] at hr
    exact absurd hr nofun
  · rintro _ rfl
    exact ⟨made, rfl, rfl⟩

/-- The list is found or made. -/
theorem triple_openList (hlist : sure → ∃ files, FindsList d.shelf.files place files) :
    Triple sure (· = d) (openList place) fun _ t => ∃ files, FindsList d.shelf.files place files ∧
      t = d.withShelf { d.shelf with files := files } := by
  refine Triple.bind_get_at ?_
  -- nothing is there, a folder, bytes, or the collection of another index
  rcases hfile : d.shelf.files.get? (place ++ [listFile]) with _ | ⟨_ | bytes | _⟩
  · rintro _ rfl
    exact ⟨_, .made hfile, rfl⟩
  · refine triple_giveUp fun _ _ hsure => ?_
    obtain ⟨files, ⟨h, -⟩ | h⟩ := hlist hsure <;> rw [hfile] at h <;> exact absurd h nofun
  · rcases hok : listObstacle? bytes with _ | o
    · rintro _ rfl
      simp only [hok]
      exact ⟨_, .there hfile hok, rfl⟩
    · simp only [hok]
      refine triple_giveUp fun _ _ hsure => ?_
      obtain ⟨files, ⟨h, hok'⟩ | h⟩ := hlist hsure
      · rw [hfile] at h
        injection h with h
        injection h with h
        rw [← h, hok] at hok'
        exact absurd hok' nofun
      · rw [hfile] at h
        exact absurd h nofun
  · refine triple_giveUp fun _ _ hsure => ?_
    obtain ⟨files, ⟨h, -⟩ | h⟩ := hlist hsure <;> rw [hfile] at h <;> exact absurd h nofun

/-- Where there was no state the empty collection is kept from now on. -/
theorem triple_keepEmpty : Triple sure (· = d) (keepEmpty place) fun c t => c = {} ∧
    t = d.withShelf { d.shelf with
      files := d.shelf.files.put (place ++ [stateFile]) (Artifact.collection {}).entry } := by
  rintro _ rfl
  exact ⟨rfl, rfl⟩

/-- The collection is the one that is found, or the empty one. -/
theorem triple_openCollection
    (hfinds : sure → ∃ listed c files, FindsList d.shelf.files place listed ∧
      FindsState listed place c files) :
    Triple sure (· = d) (openCollection place) fun c t => ∃ listed files,
      FindsList d.shelf.files place listed ∧ FindsState listed place c files ∧
        t = d.withShelf { d.shelf with files := files } := by
  refine (triple_openList fun hsure => ?_).bind fun _ => ?_
  · obtain ⟨listed, c, files, hlist, -⟩ := hfinds hsure
    exact ⟨listed, hlist⟩
  rintro _ ⟨listed, hlist, rfl⟩
  -- what was found to be promised is found from the list that is now there
  have hpromised : sure → ∃ c files, FindsState listed place c files := by
    intro hsure
    obtain ⟨listed', c, files, hlist', hstate⟩ := hfinds hsure
    exact ⟨c, files, hlist.unique hlist' ▸ hstate⟩
  have hentry : sure → (∃ c bytes, listed.get? (place ++ [stateFile]) =
      some (.artifact (.collection c) bytes)) ∨ listed.get? (place ++ [stateFile]) = none ∨
        ∃ bytes, listed.get? (place ++ [stateFile]) = some (.file bytes) ∧
          stateObstacle? bytes = none := by
    intro hsure
    obtain ⟨c, files, hstate | hstate⟩ := hpromised hsure
    · exact .inl ⟨c, Tree.exists_artifact hstate⟩
    · exact .inr hstate
  have hempty : ∀ hmade : FindsState listed place {} (listed.put (place ++ [stateFile])
      (Artifact.collection {}).entry), Triple sure (· = d.withShelf { d.shelf with files := listed })
        (keepEmpty place) fun c t => ∃ listed files, FindsList d.shelf.files place listed ∧
          FindsState listed place c files ∧ t = d.withShelf { d.shelf with files := files } := by
    intro hmade
    refine triple_keepEmpty.mono ?_
    rintro _ _ ⟨rfl, rfl⟩
    exact ⟨listed, _, hlist, hmade, rfl⟩
  refine (show Triple sure (· = d.withShelf { d.shelf with files := listed }) _ _ from
    Triple.bind_get_at ?_) _ rfl
  rcases hstate : listed.get? (place ++ [stateFile]) with _ | ⟨_ | bytes | ⟨c | _, bytes⟩⟩ <;>
    simp only [withShelf, hstate]
  · exact hempty (.made (.inl hstate))
  · refine triple_giveUp fun _ _ hsure => ?_
    simpa [hstate] using hentry hsure
  · rcases hok : stateObstacle? bytes with _ | o
    · exact hempty (.made (.inr ⟨bytes, hstate, hok⟩))
    · refine triple_giveUp fun _ _ hsure => ?_
      simpa [hstate, hok] using hentry hsure
  · refine Triple.pure ?_
    rintro _ rfl
    exact ⟨listed, listed, hlist, .there (Tree.value?_of_get? hstate), rfl⟩
  · refine triple_giveUp fun _ _ hsure => ?_
    simpa [hstate] using hentry hsure

/-- A writer takes nothing but memory. -/
theorem triple_openWriter (hwriter : sure → TakesWriter d.shelf d.index place) :
    Triple sure (· = d) (openWriter place) fun _ t =>
      TakesWriter d.shelf d.index place ∧ t = d := by
  refine Triple.bind_get_at ?_
  rcases hheap : machineWord d.index.heap with f | heap
  · refine Triple.fail fun _ _ hsure => ?_
    obtain ⟨heap, threads, h, -⟩ := hwriter hsure
    rw [hheap] at h
    exact absurd h nofun
  rcases hthreads : machineWord d.index.threads with f | threads
  · refine Triple.fail fun _ _ hsure => ?_
    obtain ⟨heap, threads, -, h, -⟩ := hwriter hsure
    rw [hthreads] at h
    exact absurd h nofun
  -- the promise is about these two numbers
  have hpromised : sure → d.shelf.held.contains place = false ∧
      heapFits d.shelf.processors heap threads = true := by
    intro hsure
    obtain ⟨heap', threads', h, h', hfits⟩ := hwriter hsure
    rw [hheap] at h
    rw [hthreads] at h'
    rw [Except.ok.inj h, Except.ok.inj h']
    exact hfits
  dsimp only
  by_cases hheld : d.shelf.held.contains place = true
  · rw [if_pos hheld]
    refine (triple_giveUp (Q := fun _ _ => False) fun _ _ hsure => ?_).bind fun _ _ h => h.elim
    rw [(hpromised hsure).1] at hheld
    exact absurd hheld nofun
  · rw [if_neg hheld]
    by_cases hfits : heapFits d.shelf.processors heap threads = true
    · rw [hfits]
      refine Triple.pure ?_
      rintro _ rfl
      exact ⟨⟨heap, threads, hheap, hthreads, by simpa using hheld, hfits⟩, rfl⟩
    · rw [Bool.not_eq_true] at hfits
      rw [hfits]
      refine triple_giveUp fun _ _ hsure => ?_
      rw [(hpromised hsure).2] at hfits
      exact absurd hfits nofun

/-- The desk after an opening that found a collection at a place. -/
def opened (d : Desk) (place : Place) (c : Collection) (files : Tree Artifact) : Desk where
  shelf := { d.shelf with files := files, claimed := d.index.key :: d.shelf.claimed }
  index := { d.index with session := some {
    place := place
    engine := {
      source := { committed := c, visible := c }
      readers := { interval := d.index.interval } } } }
  now := d.now
  log := d.log ++ [⟨.info, "search_index_opened", d.pathContext⟩]

/-- **An opening.** It leaves open what it found, and it succeeds where there is something to be
found. -/
theorem triple_openIndex_opened (hclosed : d.index.session = none)
    (hopens : sure → ∃ place c files, Opens d.shelf d.index place c files) :
    Triple sure (· = d) openIndex fun _ t => ∃ place c files, Opens d.shelf d.index place c files ∧
      t = d.opened place c files := by
  refine Triple.bind_get_at ?_
  rw [Index.isOpen_eq_false.mpr hclosed]
  refine (triple_claim fun hsure => ?_).bind fun _ => ?_
  · obtain ⟨place, c, files, h⟩ := hopens hsure
    exact h.free
  rintro _ ⟨hfree, rfl⟩
  refine (show Triple sure (· = d.withShelf
    { d.shelf with claimed := d.index.key :: d.shelf.claimed }) _ _ from
      (triple_openFolder fun hsure => ?_).bind fun place => ?_) _ rfl
  · obtain ⟨place, c, files, h⟩ := hopens hsure
    obtain ⟨made, listed, hmade, -⟩ := h.files
    exact ⟨_, hmade⟩
  rintro _ ⟨made, hmade, rfl⟩
  -- the folder that was made is the one that is promised
  have hfinds : sure → ∃ listed c files, FindsList made place listed ∧
      FindsState listed place c files ∧ TakesWriter d.shelf d.index place := by
    intro hsure
    obtain ⟨place', c, files, -, ⟨made', listed, hmade', hlist, hstate⟩, hwriter⟩ := hopens hsure
    replace hmade : d.shelf.files.makeFolder d.shelf.folder.parts d.index.path =
      .ok (made, place) := hmade
    rw [hmade] at hmade'
    obtain ⟨rfl, rfl⟩ := Prod.mk.inj (Except.ok.inj hmade')
    exact ⟨listed, c, files, hlist, hstate, hwriter⟩
  refine (show Triple sure (· = d.withShelf { d.shelf with
    files := made, claimed := d.index.key :: d.shelf.claimed }) _ _ from
      (triple_openCollection fun hsure => ?_).bind fun c => ?_) _ rfl
  · obtain ⟨listed, c, files, hlist, hstate, -⟩ := hfinds hsure
    exact ⟨listed, c, files, hlist, hstate⟩
  rintro _ ⟨listed, files, hlist, hstate, rfl⟩
  refine (show Triple sure (· = d.withShelf { d.shelf with
    files := files, claimed := d.index.key :: d.shelf.claimed }) _ _ from
      (triple_openWriter fun hsure => ?_).bind fun _ => ?_) _ rfl
  · obtain ⟨-, -, -, -, -, hwriter⟩ := hfinds hsure
    exact hwriter
  rintro _ ⟨hwriter, rfl⟩
  simp only [setSession, emit, outcome_bind, outcome_get, outcome_modify]
  exact ⟨place, c, files, ⟨hfree, ⟨made, listed, hmade, hlist, hstate⟩, hwriter⟩, rfl⟩

/-- What is open after an opening has readers who see what was found. -/
theorem holds_opened (d : Desk) (place : Place) (c : Collection) (files : Tree Artifact) :
    Holds sure { d.shelf with files := files, claimed := d.index.key :: d.shelf.claimed } d.index
      place (.settled c) (d.opened place c files) :=
  ⟨rfl, _, rfl, ⟨rfl, rfl⟩, rfl, fun _ => Engine.willing_start c c⟩

/-- An opening takes its steps in this order, and starts a session at the end. -/
theorem triple_openIndex (hclosed : d.index.session = none)
    (hopens : sure → ∃ place c files, Opens d.shelf d.index place c files) :
    Triple sure (· = d) openIndex fun _ t => ∃ place c files, Opens d.shelf d.index place c files ∧
      Holds sure { d.shelf with files := files, claimed := d.index.key :: d.shelf.claimed } d.index
        place (.settled c) t := by
  refine (triple_openIndex_opened hclosed hopens).mono ?_
  rintro _ _ ⟨place, c, files, hopened, rfl⟩
  exact ⟨place, c, files, hopened, holds_opened d place c files⟩

/-- What there is to be found is opened. -/
theorem outcome_openIndex {files : Tree Artifact} (hclosed : d.index.session = none)
    (h : Opens d.shelf d.index place c files) :
    openIndex.outcome d = (.ok (), d.opened place c files) := by
  obtain ⟨_, t, hopen, place', c', files', h', rfl⟩ :=
    (triple_openIndex_opened hclosed fun _ => ⟨place, c, files, h⟩).exists_ok rfl
  obtain ⟨rfl, rfl, rfl⟩ := h.unique h' rfl rfl rfl
  exact hopen

/-- An open index stays as it is when it is opened. -/
theorem outcome_openIndex_open (h : d.index.isOpen = true) : openIndex.outcome d = (.ok (), d) := by
  rw [openIndex, outcome_bind, outcome_get]
  dsimp only
  rw [h]
  rfl

/-- What an opening that succeeded found is kept, and open. -/
theorem openIndex_ok {t : Desk} (hclosed : d.index.isOpen = false)
    (h : openIndex.outcome d = (.ok (), t)) :
    ∃ place c files, Opens d.shelf d.index place c files ∧
      Holds False { d.shelf with files := files, claimed := d.index.key :: d.shelf.claimed }
        d.index place (.settled c) t := by
  have hopens : Triple False (· = d) openIndex _ :=
    triple_openIndex (Index.isOpen_eq_false.mp hclosed) False.elim
  exact hopens.ok rfl h

/-! ## Closing

A handle that is closed gives back its session and its claim, also where its readers cannot be
closed. -/

/-- The shelf and the handle of a desk. -/
def Stands (shelf : Shelf) (i : Index) (d : Desk) : Prop :=
  d.shelf = shelf ∧ d.index = i

/-- A closed index stays as it is when it is closed. -/
theorem outcome_closeIndex_closed (h : d.index.session = none) :
    closeIndex.outcome d = (.ok (), d) := by
  rw [closeIndex, outcome_bind, outcome_get]
  dsimp only
  rw [Index.isOpen_eq_false.mpr h]
  rfl

/-- A handle that gives back what it holds is closed, and its path is free. -/
theorem triple_giveBack {shelf : Shelf} {base : Index} {W : Watched Engine → Prop} :
    Triple True (Open shelf base place W) giveBack fun _ =>
      Stands { shelf with claimed := shelf.claimed.filter (· ≠ base.key) }
        { base with session := none } := by
  rintro d ⟨hshelf, w, hw, -⟩
  simp only [giveBack, setSession, unclaim, emit, outcome_bind, outcome_get, outcome_modify]
  refine ⟨?_, ?_⟩
  · simp only [hshelf, hw]
  · simp only [hw]

/-- **A closing.** Whatever the end of the writer comes to, the handle is closed afterwards. -/
theorem stands_closeIndex {shelf : Shelf} {base : Index} {W : Watched Engine → Prop}
    (h : Open shelf base place W d) :
    Stands { shelf with claimed := shelf.claimed.filter (· ≠ base.key) }
      { base with session := none } (closeIndex.outcome d).2 := by
  have hreaders : Triple True (Open shelf base place W) closeReaders
      fun _ => Open shelf base place fun _ => True := by
    refine Triple.modify ?_
    rintro t ⟨hshelf, w, hw, -⟩
    simp only [hw]
    exact ⟨hshelf, _, rfl, trivial⟩
  -- the end of the writer may fail, but it leaves the handle open at its place
  have hwriter : Keeps (Open shelf base place fun _ => True)
      (onWriter "close" Engine.waitMerging) := keeps_onEngine fun _ _ => trivial
  have hemit : ∀ context, Triple True (Open shelf base place fun _ => True)
      (emit .warning "search_index_merge_wait_failed" context)
        fun _ => Open shelf base place fun _ => True := fun _ => triple_emit _ _ _
  have hgive : Triple True (Open shelf base place fun _ => True) giveBack fun _ =>
      Stands { shelf with claimed := shelf.claimed.filter (· ≠ base.key) }
        { base with session := none } := triple_giveBack
  have hlast : ∀ t, Open shelf base place (fun _ => True) t →
      Stands { shelf with claimed := shelf.claimed.filter (· ≠ base.key) }
        { base with session := none } (giveBack.outcome t).2 := by
    intro t ht
    obtain ⟨_, u, hu, hstands⟩ := hgive.exists_ok ht
    rw [hu]
    exact hstands
  rw [closeIndex, outcome_bind, outcome_get]
  dsimp only
  rw [if_pos h.isOpen]
  refine Triple.leaves hreaders h fun _ t ht => ?_
  -- whether the failure is passed on, reported or there is none, all is given back
  refine Triple.leaves hwriter.triple_attempt ht fun r t ht => ?_
  rcases r with (e | f) | _
  · exact Triple.leaves hgive ht fun _ _ hu => hu
  · dsimp only
    split_ifs
    · refine Triple.leaves Triple.get ht fun x t ht => ?_
      exact Triple.leaves (hemit _) ht fun _ t ht => hlast t ht
    · exact Triple.leaves hgive ht fun _ _ hu => hu
  · exact hlast t ht

/-- An engine that is willing lets its writer end, so the closing succeeds. -/
theorem closeIndex_ok {shelf : Shelf} {base : Index}
    (h : Open shelf base place (fun w => w.source.Willing) d) :
    (closeIndex.outcome d).1 = .ok () := by
  have hreaders : Triple True (Open shelf base place fun w => w.source.Willing) closeReaders
      fun _ => Open shelf base place fun w => w.source.Willing := by
    refine Triple.modify ?_
    rintro t ⟨hshelf, w, hw, hwilling⟩
    simp only [hw]
    refine ⟨hshelf, _, rfl, ?_⟩
    -- closing the readers leaves the engine below them as it is
    rw [Watched.close]
    split
    · exact hwilling
    · exact hwilling
  have hwriter : Triple True (Open shelf base place fun w => w.source.Willing)
      (onWriter "close" Engine.waitMerging) fun _ => Open shelf base place fun _ => True := by
    refine triple_onEngine ?_
    intro w hw
    rw [Watched.onSource, outcome_onPart, Engine.waitMerging, Engine.outcome_use,
      hw.refusal? .waitMergingThreads]
    trivial
  obtain ⟨_, t, hr, ht⟩ := hreaders.exists_ok h
  obtain ⟨_, u, hu, hopen⟩ := hwriter.exists_ok ht
  obtain ⟨_, v, hv, -⟩ := triple_giveBack.exists_ok hopen
  have hend : (attempt (onWriter "close" Engine.waitMerging)).outcome t = (.ok (.ok ()), u) := by
    rw [outcome_attempt, hu]
  rw [closeIndex, outcome_bind, outcome_get]
  dsimp only
  rw [if_pos h.isOpen, outcome_bind_of_ok hr, outcome_bind_of_ok hend]
  dsimp only
  rw [hv]

end Desk

end CodeCatalog.Search
