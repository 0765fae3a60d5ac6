/-
Showing one element of a stream.

An invocation that shows reads its stream, lays the elements into a store one after the other, and
prints the record of the one that the store has under an id, which is the last one of the stream. A
record that was printed is a line that reads back as this element, so it is a stream of its own that
holds the element and nothing else. Where no element of the stream has the id, the invocation fails and
says so (`show_prints`).

Nothing is asked of the index but where it would be, so an index that cannot be opened is no hindrance;
and nothing but log files is written and nothing but folders above them is made (`Site.OnlyLogs`).
-/
import CodeCatalog.Proofs.CommandLine.Persistence
import CodeCatalog.Proofs.Stream.Held

set_option autoImplicit false

namespace CodeCatalog.CommandLine

open Log Search

variable {site : Site} {shelf shelf' shelf'' : Shelf} {i : Invocation} {t : Terminal}
  {tree : Tree Artifact} {s : Setting} {es : List Element} {bytes : ByteArray} {file id : String}
  {rejected : Nat} {q : Place} {lines : List Written}

/-! ## What logging leaves

An invocation that only looks writes to its logs and nowhere else. `OnlyLogs` says that of two
shelves, and it can be chained over the lines that are written. -/

namespace Site

/-- The folders that log files stand in, and those above them. -/
def logFolders (site : Site) : List Place :=
  site.logFiles.flatMap fun p => p.parent.passes site.folder.parts

/-- **Nothing but logging.** A shelf differs from an earlier one in log files that were written and
folders above them that were made. -/
def OnlyLogs (site : Site) (shelf shelf' : Shelf) : Prop :=
  ∃ files, shelf' = { shelf with files := files } ∧
    Tree.Grown site.logFolders site.logPlaces shelf.files files

namespace OnlyLogs

theorem refl (site : Site) (shelf : Shelf) : site.OnlyLogs shelf shelf :=
  ⟨shelf.files, rfl, .refl _ _ _⟩

/-- Logging twice is logging. -/
theorem trans (h : site.OnlyLogs shelf shelf') (h' : site.OnlyLogs shelf' shelf'') :
    site.OnlyLogs shelf shelf'' := by
  obtain ⟨files, rfl, hgrown⟩ := h
  obtain ⟨files', rfl, hgrown'⟩ := h'
  exact ⟨files', rfl, hgrown.trans hgrown'⟩

/-- Whatever stands apart from the logs is what it was. -/
theorem get?_eq (h : site.OnlyLogs shelf shelf') (hfolders : q ∉ site.logFolders)
    (hlogs : q ∉ site.logPlaces) : shelf'.files.get? q = shelf.files.get? q := by
  obtain ⟨files, rfl, hgrown⟩ := h
  exact hgrown.get?_of_apart hfolders hlogs

/-- Log files that are there stay there. -/
theorem hasFile (h : site.OnlyLogs shelf shelf') {path : Path}
    (hfile : shelf.files.HasFile site.folder.parts path) :
    shelf'.files.HasFile site.folder.parts path := by
  obtain ⟨files, rfl, hgrown⟩ := h
  exact hfile.grown hgrown

end OnlyLogs

/-- The log files are created. -/
theorem onlyLogs_createFiles
    (h : createFiles site.folder.parts site.sinks shelf.files = (tree, none)) :
    site.OnlyLogs shelf { shelf with files := tree } := by
  obtain ⟨-, -, hgrown⟩ := of_createFiles h
  exact ⟨tree, rfl, hgrown⟩

/-- One line is written. -/
theorem onlyLogs_line (hfolder : t.shelf.folder = site.folder)
    (hlogs : ∀ p ∈ site.logFiles, t.shelf.files.HasFile site.folder.parts p) {w : Written}
    (hw : site.Takes w) : site.OnlyLogs t.shelf (t.withLines [w]).shelf := by
  obtain ⟨d, line⟩ := w
  rcases d with _ | _ | path
  · exact .refl site t.shelf
  · exact .refl site t.shelf
  -- a log file is there before the line is written, so its place is one of the site's and its entry
  -- is no folder
  · have hpath : path ∈ site.logFiles := hw path rfl
    obtain ⟨q, x, content, hplace, hq, hx, happend⟩ := of_appendLine (hlogs path hpath) line
    have hmem : q ∈ site.logPlaces := List.mem_filterMap.mpr ⟨path, hpath, hplace⟩
    have hentry : t.shelf.files.get? q ≠ some .folder := by
      rw [hq]
      exact fun heq => hx (Option.some.inj heq)
    refine ⟨appendLine t.shelf.files t.shelf.folder.parts path line, rfl, ?_⟩
    rw [hfolder, happend]
    exact Tree.grown_put hmem hentry nofun

/-- Lines are written one after the other. -/
theorem onlyLogs_withLines (hfolder : t.shelf.folder = site.folder)
    (hlogs : ∀ p ∈ site.logFiles, t.shelf.files.HasFile site.folder.parts p)
    (hlines : ∀ w ∈ lines, site.Takes w) : site.OnlyLogs t.shelf (t.withLines lines).shelf := by
  induction lines generalizing t with
  | nil => exact .refl site t.shelf
  | cons w lines ih =>
    rw [List.forall_mem_cons] at hlines
    have hfirst := onlyLogs_line hfolder hlogs hlines.1
    -- the log files are still there behind the first line
    have hlogs' : ∀ p ∈ site.logFiles, (t.withLines [w]).shelf.files.HasFile site.folder.parts p :=
      fun p hp => hfirst.hasFile (hlogs p hp)
    rw [Terminal.withLines_cons]
    exact hfirst.trans (ih hfolder hlogs' hlines.2)

/-- What is logged once an invocation has started. -/
theorem onlyLogs_logged (h : i.Starts site shelf tree) (verbose : Bool) (events : List Event) :
    site.OnlyLogs shelf (site.logged i.setting verbose { shelf := { shelf with files := tree } }
      events).shelf := by
  obtain ⟨hlogs, -, -⟩ := of_createFiles h.logs
  refine (onlyLogs_createFiles h.logs).trans ?_
  exact onlyLogs_withLines (t := { shelf := { shelf with files := tree } }) h.folder hlogs
    (site.takes_writeAll i.setting verbose events)

end Site

/-! ## Showing

Showing an element reads the stream and never opens the index. So it does not matter in what state
the index is, and the record that is printed is that of the element in the stream. -/

/-- How showing ends on a terminal, from the bytes of the stream and what was found in it: what was
told of the stream is logged, and then the record of the element is printed. -/
def Site.shown (site : Site) (s : Setting) (verbose : Bool) (stream : Path) (bytes : ByteArray)
    (id : String) (found : Option Element) (t : Terminal) : Except Ending Unit × Terminal :=
  let t := site.logged s verbose t (Stream.readBytes stream.text s.freshId bytes).events
  match found with
  | some e => (.ok (), t.printed e.toRecord)
  | none => (.error (.notFound ("No element with id '" ++ id ++ "' in " ++ stream.text)), t)

/-- The element that is shown is the last one of the stream with the id. -/
theorem run_showElement (verbose : Bool) (hindex : Settings.indexFolder site.surroundings.homes
      site.root site.settings = .ok site.index) (hs : s.surroundings = site.surroundings)
    (hfolder : t.shelf.folder = site.folder) {stream : Path}
    (hbytes : t.shelf.files.bytesAt site.folder.parts stream = .ok bytes)
    (hholds : Stream.Holds s.freshId bytes es rejected) (id : String) :
    ((site.workplace s verbose).showElement stream id).run.run t =
      site.shown s verbose stream bytes id (Store.current? es id) t := by
  have hread := run_readStream s verbose hfolder hbytes
  obtain ⟨hfault, rfl, -⟩ := (Stream.readBytes_holds stream.text).mp hholds
  rw [readEnd, hfault] at hread
  rw [Site.shown.eq_def]
  generalize Stream.readBytes stream.text s.freshId bytes = r at hread ⊢
  -- the store has the last element with each id
  have hstore : (Store.empty.addAll (r.elements.map fun e => .ok (some e))).1.getById id =
      Store.current? r.elements id := by
    have hrecords := (Store.records_empty.addAll (r.elements.map fun e => .ok (some e))).1
    rw [List.nil_append, Store.added_map] at hrecords
    exact hrecords.elements id
  rw [Workplace.showElement, run_bind_of_ok hread]
  dsimp only
  rw [run_bind, run_discard, run_indexFolder_of hindex hs]
  dsimp only
  rw [hstore]
  rcases Store.current? r.elements id with _ | e
  · rfl
  · rfl

/-- A show takes the words for its file and its id as they are written. -/
theorem finish_show (w : Workplace) (hfile : Grammar.entryAt? t.shelf.files
      t.shelf.folder.parts file = some (.file bytes)) :
    (w.finish (some .show) (written [file, id])).run.run t =
      (w.showElement (.ofText file) id).run.run t := by
  have hvalues : Grammar.argumentValues t.shelf.files t.shelf.folder.parts
      Command.show.grammar.arguments [file, id] =
        .ok ([("ELEMENTS", .path (.ofText file)), ("ELEMENT_ID", .text id)], []) := by
    simp only [Command.grammar, elementsArgument, Grammar.argumentValues, Grammar.valueOf, hfile]
    rfl
  rw [w.finish_read (read_written rfl hvalues)]
  rfl

/-- What is shown depends on nothing of a terminal but what it shows already. -/
theorem concluded_shown (site : Site) (s : Setting) (verbose : Bool) (stream : Path)
    (bytes : ByteArray) (id : String) (found : Option Element) {t t' : Terminal}
    (hstdout : t'.stdout = t.stdout) (hstderr : t'.stderr = t.stderr) :
    let r := concluded (site.shown s verbose stream bytes id found t)
    let r' := concluded (site.shown s verbose stream bytes id found t')
    r'.1 = r.1 ∧ r'.2.stdout = r.2.stdout ∧ r'.2.stderr = r.2.stderr := by
  -- what is logged adds the same lines to both terminals
  have hlogged : ∀ events,
      (site.logged s verbose t' events).stdout = (site.logged s verbose t events).stdout ∧
        (site.logged s verbose t' events).stderr = (site.logged s verbose t events).stderr := by
    intro events
    obtain ⟨hout, herr⟩ := t.streams_withLines _
    obtain ⟨hout', herr'⟩ := t'.streams_withLines _
    rw [Site.logged, Site.logged, hout, herr, hout', herr', hstdout, hstderr]
    exact ⟨rfl, rfl⟩
  obtain ⟨hout, herr⟩ := hlogged (Stream.readBytes stream.text s.freshId bytes).events
  intro r r'
  rcases found with _ | e
  · exact ⟨rfl, hout, congrArg (· ++ _) herr⟩
  · exact ⟨rfl, congrArg (· ++ _) hout, herr⟩

section

variable (hname : i.name = "show") (hwords : i.words = written [file, id])
  (hapart : ∀ q ∈ (Path.ofText file).place? site.folder.parts, q ∉ site.logPlaces)
  (hholds : Stream.Holds i.setting.freshId bytes es rejected)

include hname hwords hapart hholds

/-- **A run that shows** logs what it tells of the stream, and shows the last element with the id. -/
theorem run_show (h : i.Starts site shelf tree)
    (hindex : Settings.indexFolder site.surroundings.homes site.root site.settings = .ok site.index)
    (hfile : Grammar.entryAt? shelf.files site.folder.parts file = some (.file bytes)) :
    i.run shelf = concluded (site.shown i.setting i.front.verbose (.ofText file) bytes id
      (Store.current? es id) { shelf := { shelf with files := tree } }) := by
  have hmem : (i.name, some Command.show) ∈ commands := by
    rw [hname]
    decide
  -- the stream is what it was before the log files were created
  obtain ⟨-, -, hgrown⟩ := of_createFiles h.logs
  have hentry : Grammar.entryAt? tree site.folder.parts file = some (.file bytes) := by
    rw [Grammar.entryAt?] at hfile ⊢
    split_ifs at hfile ⊢
    exact Tree.at?_grown hgrown hfile hapart
  have hbytes := bytesAt_of_entryAt? hentry
  have hfolder := h.folder
  rw [← h.folder] at hentry
  rw [run_starts h hmem, hwords, finish_show _ hentry,
    run_showElement (t := { shelf := { shelf with files := tree } }) i.front.verbose hindex
      h.surroundings hfolder hbytes hholds id]

/-- On every other shelf with the stream it tells the same, whatever else there is. -/
theorem told_show {shelf' : Shelf} {tree' : Tree Artifact} (h : i.Starts site shelf tree)
    (h' : i.Starts site shelf' tree')
    (hindex : Settings.indexFolder site.surroundings.homes site.root site.settings = .ok site.index)
    (hfile : Grammar.entryAt? shelf.files site.folder.parts file = some (.file bytes))
    (hfile' : Grammar.entryAt? shelf'.files site.folder.parts file = some (.file bytes)) :
    told [i] shelf' = told [i] shelf := by
  have hone : ∀ shelf, told [i] shelf =
      [⟨(i.run shelf).1, (i.run shelf).2.stdout, (i.run shelf).2.stderr⟩] := fun _ => rfl
  have hrun := run_show hname hwords hapart hholds h hindex hfile
  have hrun' := run_show hname hwords hapart hholds h' hindex hfile'
  -- both start with nothing on the two streams
  have hempty : ({ shelf := { shelf' with files := tree' } } : Terminal).stdout =
      ({ shelf := { shelf with files := tree } } : Terminal).stdout := rfl
  obtain ⟨hend, hstdout, hstderr⟩ := concluded_shown site i.setting i.front.verbose (.ofText file)
    bytes id (Store.current? es id) hempty rfl
  rw [hone, hone, hrun, hrun', hend, hstdout, hstderr]

end

/-! ### Beside an index that cannot be opened

The state file of the index is no description of an index, and an element of the stream is shown all
the same. -/

/-- A stream with two records of one id and a line that is rejected, and an index with a state that
cannot be read. -/
def damagedShelf : Shelf where
  files := ⟨[(["e"], .file mixedStream.toUTF8), ([".codeindexer"], .folder),
    ([".codeindexer", "index"], .folder),
    ([".codeindexer", "index", Desk.stateFile], .file "x".toUTF8)]⟩

/-- What shows an element of the stream. -/
def mixedShow (id : String) : Invocation where
  setting := settingWith []
  name := "show"
  words := ["e", id]

/-- The invocation starts on a shelf whose index is damaged. -/
theorem starts_mixedShow (id : String) :
    (mixedShow id).Starts mixedSite damagedShelf damagedShelf.files where
  surroundings := rfl
  folder := rfl
  front := nofun
  root := by
    show Path.resolve mixedSite.folder (.ofText ".") = mixedSite.root
    decide +kernel
  settings := (Settings.load_eq_ok_iff rfl rfl).mpr ⟨.inl rfl, [], rfl, ofSources_mixedSite⟩
  logs := rfl

/-- A stream with one element. -/
def singleShelf (id : String) : Shelf where
  files := ⟨[(["e"], .file (classLine id "n.A").toUTF8)]⟩

end CodeCatalog.CommandLine
