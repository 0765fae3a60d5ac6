/-
A root between invocations.

A site is a root with its settings and the files that were there at the start. What invocations make
and write at a site are the log files, the folder of the index with its two files, and the folders on
the way; `Site.Reaches` says of a tree that it has come from the files at the start in this way alone.
A site is sound if nothing of this changes what its settings say, and if no log file is one of the
index's own.

A shelf is ready for an invocation if the log files can be created and the index can then be opened
(`Site.Ready`); once the log files are there it is set up (`Site.SetUp`), and it stays so when lines
are written to them, when the index is opened, and when a collection is kept in it. A shelf that is set
up is ready for the next invocation, which finds the same collection.
-/
import CodeCatalog.CommandLine.Program
import CodeCatalog.Proofs.Search.Opening
import CodeCatalog.Proofs.Storage.Growth

set_option autoImplicit false

namespace CodeCatalog

namespace Log

variable {α : Type} {l : Logger} {time : String} {source : Source} {events : List Event}
  {w : Written} {sinks sinks' : List Sink} {folder : Place}

/-! ## Where lines go

A line goes to a sink of the logger, or to the error stream where no sink could take it. Which files
are created for the sinks depends on the folders that are there, and not on what the files hold. -/

/-- A line that was sunk went to a sink. -/
theorem destination_of_mem_sunk {e : Event} (h : w ∈ l.sunk time e) :
    ∃ s ∈ l.sinks, s.destination = w.1 := by
  rw [Logger.sunk] at h
  split at h
  · obtain ⟨s, hs, hline⟩ := List.mem_filterMap.mp h
    obtain ⟨line, -, rfl⟩ := Option.map_eq_some_iff.mp hline
    exact ⟨s, (List.mem_filter.mp hs).1, rfl⟩
  · exact absurd h List.not_mem_nil

/-- A line that could not be sunk goes to the error stream. -/
theorem destination_of_unsunk {e : Event} {lines : List Written} (hset : l.isSetUp = true)
    (h : l.unsunk time source e = .ok lines) (hw : w ∈ lines) : w.1 = .stderr := by
  cases source with
  | catalog =>
    simp only [Logger.unsunk, hset] at h
    obtain rfl := Except.ok.inj h
    split at hw
    · rw [List.mem_singleton.mp hw]
    · exact absurd hw List.not_mem_nil
  | other =>
    simp only [Logger.unsunk] at h
    obtain rfl := Except.ok.inj h
    split at hw
    · rw [List.mem_singleton.mp hw]
    · exact absurd hw List.not_mem_nil

/-- Lines are sunk or told on the error stream. -/
theorem of_write {e : Event} {lines : List Written} (h : l.write time source e = .ok lines) :
    lines = l.sunk time e ∨ l.unsunk time source e = .ok lines := by
  -- an event that clashes with its own fields is a fault before it comes to the sinks
  have hlines : (if l.sinks.isEmpty then l.unsunk time source e else .ok (l.sunk time e)) =
      .ok lines := by
    rw [Logger.write] at h
    split at h
    · rcases hclash : l.clash? e with _ | f <;> rw [hclash] at h
      · exact h
      · exact absurd h nofun
    · exact h
  split at hlines
  · exact .inr hlines
  · exact .inl (Except.ok.inj hlines).symm

/-- The lines of a logger that was set up go to its sinks, or without any to the error stream. -/
theorem destination_of_mem_writeAll (hset : l.isSetUp = true)
    (h : w ∈ l.writeAll time source events) :
    w.1 = .stderr ∨ ∃ s ∈ l.sinks, s.destination = w.1 := by
  obtain ⟨e, -, hw⟩ := List.mem_flatMap.mp h
  rcases hwrite : l.write time source e with f | lines <;> rw [hwrite] at hw
  · exact absurd hw List.not_mem_nil
  · replace hw : w ∈ lines := hw
    rcases of_write hwrite with rfl | hunsunk
    · exact .inr (destination_of_mem_sunk hw)
    · exact .inl (destination_of_unsunk hset hunsunk hw)

/-- Files are created by destinations alone. -/
theorem createFiles_congr (h : sinks.map (·.destination) = sinks'.map (·.destination))
    (t : Tree α) : createFiles folder sinks t = createFiles folder sinks' t := by
  -- only the destinations decide which files are made, so both lists are run through together
  induction sinks generalizing sinks' t with
  | nil =>
    rw [List.map_nil, eq_comm, List.map_eq_nil_iff] at h
    rw [h]
  | cons s rest ih =>
    rcases sinks' with _ | ⟨s', rest'⟩
    · exact absurd h nofun
    rw [List.map_cons, List.map_cons, List.cons_eq_cons] at h
    rw [createFiles, createFiles, h.1]
    rcases s'.destination with _ | _ | path
    · exact ih h.2 t
    · exact ih h.2 t
    · dsimp only
      rcases createFile t folder path with f | made
      · rfl
      · exact ih h.2 made

end Log

/-! ## Settings files

What a settings file says is not changed by the growth of other files, nor is a file found where
there was none. -/

namespace Settings

variable {α : Type} {t u : Tree α} {folder q : Place} {path : Path} {folders files : List Place}

/-- A settings file that is not there has no entries. -/
theorem entriesAt_of_none (hplace : path.place? folder = some q) (hnone : t.get? q = none) :
    entriesAt t folder path = .ok [] := by
  -- nothing stands at the place, so either the way there is broken or its last step is missing; the
  -- settings treat both as an absent file
  have hmissing : t.bytesAt folder path = .error .missing ∨
      t.bytesAt folder path = .error .notFolder := by
    rw [Tree.bytesAt]
    rcases hlocate : t.locate folder path with f | r
    · rcases Tree.walk_fault hplace hlocate with rfl | rfl
      · exact .inl rfl
      · exact .inr rfl
    · rw [Tree.place?_of_locate hlocate] at hplace
      obtain rfl := Option.some.inj hplace
      simp only [bind, Except.bind, hnone]
      exact .inl trivial
  rw [entriesAt]
  rcases hmissing with h | h
  · rw [h]
  · rw [h]

/-- A settings file reads the same when something was made or written elsewhere. -/
theorem entriesAt_grown (h : Tree.Grown folders files t u) (hplace : path.place? folder = some q)
    (hfolders : q ∉ folders) (hfiles : q ∉ files)
    (hthere : (∃ x, x ≠ .folder ∧ t.at? folder path = some x) ∨ t.get? q = none) :
    entriesAt u folder path = entriesAt t folder path := by
  rcases hthere with ⟨x, hx, hat⟩ | hnone
  · have hsame : u.at? folder path = some x := by
      refine Tree.at?_grown h hat fun r hr => ?_
      rw [hplace] at hr
      exact Option.some.inj hr ▸ hfiles
    rw [entriesAt, entriesAt, Tree.bytesAt_of_at? hat hx, Tree.bytesAt_of_at? hsame hx]
  · have hsame : u.get? q = none := (h.get?_of_apart hfolders hfiles).trans hnone
    rw [entriesAt_of_none hplace hnone, entriesAt_of_none hplace hsame]

end Settings

namespace CommandLine

open Log Search
open Desk (listFile stateFile)

/-! ## Sites

A site is a root with its settings, its logs and its index. It is sound if the files that
invocations write are apart from those that decide what they do; then the shelf stays in the state
that `SetUp` describes. -/

/-- A root with its settings, seen from a working folder, and the files at the start. -/
structure Site where
  surroundings : Settings.Surroundings
  folder : Path
  files : Tree Artifact
  root : Path
  settings : CodeCatalog.Settings
  /-- The folder of the index. -/
  index : Path

namespace Site

/-- Where log lines go at the site. -/
def sinks (site : Site) : List Sink :=
  (Logger.ofSettings site.settings.logging).sinks

def logFiles (site : Site) : List Path :=
  filesOf site.sinks

/-- The places of the log files. -/
def logPlaces (site : Site) : List Place :=
  site.logFiles.filterMap (·.place? site.folder.parts)

/-- The places of the files that the index keeps. -/
def indexPlaces (site : Site) : List Place :=
  (site.index.place? site.folder.parts).toList.flatMap fun place =>
    [place ++ [listFile], place ++ [stateFile]]

/-- The folders that are made. -/
def folders (site : Site) : List Place :=
  (site.logFiles.flatMap fun p => p.parent.passes site.folder.parts) ++
    site.index.passes site.folder.parts

/-- The handle on the index. -/
def handle (site : Site) : Index :=
  Catalog.indexOf site.folder site.index site.settings.index

/-- The tree has come from the files at the start by what invocations make and write. -/
def Reaches (site : Site) (tree : Tree Artifact) : Prop :=
  Tree.Grown site.folders (site.logPlaces ++ site.indexPlaces) site.files tree

/-- The settings load, and say the same whatever invocations make and write; and no log file is one
of the index's own. -/
structure Sound (site : Site) : Prop where
  settings : ∀ tree, site.Reaches tree →
    Settings.load tree site.folder.parts site.surroundings site.root [] = .ok site.settings
  index : Settings.indexFolder site.surroundings.homes site.root site.settings = .ok site.index
  apart : ∀ q ∈ site.logPlaces, q ∉ site.indexPlaces

/-- Nothing is made or written where the settings file is read, which is a file or is not there. -/
structure Apart (site : Site) (path : Path) (q : Place) : Prop where
  place : path.place? site.folder.parts = some q
  folders : q ∉ site.folders
  logs : q ∉ site.logPlaces
  index : q ∉ site.indexPlaces
  there : (∃ x, x ≠ .folder ∧ site.files.at? site.folder.parts path = some x) ∨
    site.files.get? q = none

/-- **A site is sound** if its two settings files and the files of its index stand apart from what is
written. -/
theorem sound_of_apart {site : Site} (rootPlace userPlace : Place)
    (hload : Settings.load site.files site.folder.parts site.surroundings site.root [] =
      .ok site.settings)
    (hindex : Settings.indexFolder site.surroundings.homes site.root site.settings = .ok site.index)
    (hroot : site.Apart (Settings.fileOf site.root) rootPlace)
    (huser : site.Apart site.surroundings.userFile userPlace)
    (hapart : ∀ q ∈ site.logPlaces, q ∉ site.indexPlaces) : site.Sound := by
  refine ⟨fun tree htree => ?_, hindex, hapart⟩
  -- a log file and the index can be made or grow, but no settings file can
  have hentries : ∀ {path q}, site.Apart path q →
      Settings.entriesAt tree site.folder.parts path =
        Settings.entriesAt site.files site.folder.parts path := fun h =>
    Settings.entriesAt_grown htree h.place h.folders
      (List.not_mem_append h.logs h.index) h.there
  rw [← hload, Settings.load, Settings.load, hentries hroot, hentries huser]

/-- **Ready.** The log files can be created, and then the index can be opened and holds a
collection. -/
structure Ready (site : Site) (c : Collection) (shelf : Shelf) : Prop where
  folder : shelf.folder = site.folder
  reaches : site.Reaches shelf.files
  opens : ∃ tree place files, createFiles site.folder.parts site.sinks shelf.files = (tree, none) ∧
    Opens { shelf with files := tree } site.handle place c files

/-- **Set up.** The log files are there, and the index can be opened and holds a collection. -/
structure SetUp (site : Site) (c : Collection) (shelf : Shelf) : Prop where
  folder : shelf.folder = site.folder
  reaches : site.Reaches shelf.files
  logs : ∀ p ∈ site.logFiles, shelf.files.HasFile site.folder.parts p
  opens : ∃ place files, Opens shelf site.handle place c files

variable {site : Site} {c c' : Collection} {shelf : Shelf} {place : Place}
  {files tree : Tree Artifact}

/-- On a ready shelf the log files can be created, and the index can be opened then. -/
theorem Ready.setUp (h : site.Ready c shelf) :
    ∃ tree, createFiles site.folder.parts site.sinks shelf.files = (tree, none) ∧
      site.SetUp c { shelf with files := tree } := by
  obtain ⟨tree, place, files, hcreate, hopens⟩ := h.opens
  obtain ⟨hlogs, -, hgrown⟩ := of_createFiles hcreate
  refine ⟨tree, hcreate, h.folder, h.reaches.trans (hgrown.mono ?_ ?_), hlogs, place, files, hopens⟩
  · exact List.subset_append_left _ _
  · exact List.subset_append_left _ _

namespace SetUp

variable (h : site.SetUp c shelf)

include h

theorem ready : site.Ready c shelf := by
  obtain ⟨place, files, hopens⟩ := h.opens
  exact ⟨h.folder, h.reaches, shelf.files, place, files, createFiles_of_hasFile h.logs, hopens⟩

/-- The files of the index stand where its path says. -/
theorem indexPlaces_eq (hopens : Opens shelf site.handle place c files) :
    site.indexPlaces = [place ++ [listFile], place ++ [stateFile]] := by
  have hplace : site.index.place? site.folder.parts = some place := by
    rw [← h.folder]
    exact hopens.place?
  rw [indexPlaces, hplace]
  rfl

/-- A line in a log file. -/
theorem append (hsound : site.Sound) {path : Path} (hpath : path ∈ site.logFiles) (line : String) :
    site.SetUp c { shelf with files := appendLine shelf.files shelf.folder.parts path line } := by
  obtain ⟨q, x, bytes, hplace, hq, hx, happend⟩ := of_appendLine (h.logs path hpath) line
  obtain ⟨place, files, hopens⟩ := h.opens
  have hmem : q ∈ site.logPlaces := List.mem_filterMap.mpr ⟨path, hpath, hplace⟩
  -- a line changes the content of a file that is there and makes no new entry
  have hgrown : Tree.Grown site.folders (site.logPlaces ++ site.indexPlaces) shelf.files
      (shelf.files.put q (.file bytes)) := by
    refine Tree.grown_put (List.mem_append_left _ hmem) ?_ nofun
    rw [hq]
    exact fun heq => hx (Option.some.inj heq)
  have hapart := hsound.apart q hmem
  rw [h.indexPlaces_eq hopens] at hapart
  obtain ⟨files', hopens'⟩ := hopens.put hq hx hapart bytes
  rw [show shelf.folder.parts = site.folder.parts by rw [h.folder], happend]
  exact ⟨h.folder, h.reaches.trans hgrown, fun p hp => (h.logs p hp).grown hgrown, place, files',
    hopens'⟩

/-- What is made when the index is opened. -/
theorem grown (hopens : Opens shelf site.handle place c files) :
    Tree.Grown site.folders (site.logPlaces ++ site.indexPlaces) shelf.files files := by
  refine hopens.grown.mono ?_ ?_
  · rw [h.folder]
    exact List.subset_append_right _ _
  · rw [h.indexPlaces_eq hopens]
    exact List.subset_append_right _ _

/-- The index has been opened and closed again. -/
theorem opened (hopens : Opens shelf site.handle place c files) :
    site.SetUp c { shelf with files := files } := by
  have hgrown := h.grown hopens
  exact ⟨h.folder, h.reaches.trans hgrown, fun p hp => (h.logs p hp).grown hgrown, place, files,
    Kept.opens hopens.kept hopens.free hopens.writer⟩

/-- A collection has been kept in the index. -/
theorem keep (hopens : Opens shelf site.handle place c files) (c' : Collection) :
    site.SetUp c' (Shelf.keep { shelf with files := files } place c') := by
  have hkept := hopens.kept
  have hput : Tree.Grown site.folders (site.logPlaces ++ site.indexPlaces) files
      (files.put (place ++ [stateFile]) (Artifact.collection c').entry) := by
    -- the state file is there since the opening, so what is kept takes its place
    obtain ⟨bytes, hstate⟩ := Tree.exists_artifact hkept.state
    refine Tree.grown_put ?_ ?_ nofun
    · rw [h.indexPlaces_eq hopens]
      simp
    · rw [hstate]
      nofun
  have hgrown := (h.grown hopens).trans hput
  exact ⟨h.folder, h.reaches.trans hgrown, fun p hp => (h.logs p hp).grown hgrown, place, _,
    Kept.opens (Kept.keep hkept c') hopens.free
      hopens.writer⟩

end SetUp

end Site

end CommandLine

end CodeCatalog
