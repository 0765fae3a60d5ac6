/-
What a build keeps for later invocations.

A build from a stream is done, or it fails and nothing has happened. It is done just if the stream can
be read to its end and the index takes the last element with each id. It then tells how many these are
and how many lines were rejected, and from then on, until something is built again, invocations answer
from these elements (`Site.Answers`): they count them, and find one by its full name. A build that
fails cannot be told from no build at all by any invocations that follow (`build_persists`).

A string with half of a pair in it is no text, and an index refuses it where it would keep it. So only
a stream without any (`Stream.PairsHalves`) is sure to be taken.

The words of a look-up are read as an option where the full name begins like one, unless it stands
behind two hyphens (`spelled`); and a log file that is the settings file or one of the index's own
takes part in everything (`Site.Sound`).
-/
import CodeCatalog.Proofs.CommandLine.Invocation
import CodeCatalog.Proofs.Stream.Contents

set_option autoImplicit false

namespace CodeCatalog.CommandLine

open Log Search

variable {site : Site} {c : Collection} {shelf : Shelf} {i : Invocation} {t u v : Terminal}
  {tree : Tree Artifact} {s : Setting} {verbose : Bool} {es : List Element} {k : Catalog}
  {records : List Json.Value}

/-! ## What is shown

What stands on the output stream are records, one on a line. Log lines may stand between them, but
only if a log goes there. -/

/-- The exit code of an invocation. -/
def exitCode (ending : Option Ending) : Nat :=
  (ending.map Ending.code).getD 0

/-- No log lines go to the output stream. -/
def Site.Quiet (site : Site) : Prop :=
  ∀ sink ∈ site.sinks, sink.destination ≠ .stdout

/-- The output stream shows records, and nothing else if no log lines go there. -/
def Site.Prints (site : Site) (t : Terminal) (records : List Json.Value) : Prop :=
  (records.map Json.render).Sublist t.stdout ∧ (site.Quiet → t.stdout = records.map Json.render)

/-- What the output stream shows more: log lines, and behind them records. -/
def Site.Adds (site : Site) (t u : Terminal) (records : List Json.Value) : Prop :=
  ∃ lines, u.stdout = t.stdout ++ lines ++ records.map Json.render ∧ (site.Quiet → lines = [])

/-- What is added to an empty output is all that is printed. -/
theorem Site.Adds.prints (h : site.Adds { shelf := shelf } t records) : site.Prints t records := by
  obtain ⟨lines, hstdout, hquiet⟩ := h
  rw [Site.Prints, hstdout]
  refine ⟨List.sublist_append_right _ _, fun hq => ?_⟩
  rw [hquiet hq]
  rfl

/-- Log lines may come before those that stand before a record. -/
theorem Site.Adds.trans (h : site.Adds t u []) (h' : site.Adds u v records) :
    site.Adds t v records := by
  obtain ⟨lines, hstdout, hquiet⟩ := h
  obtain ⟨lines', hstdout', hquiet'⟩ := h'
  refine ⟨lines ++ lines', ?_, fun hq => by rw [hquiet hq, hquiet' hq]; rfl⟩
  rw [hstdout', hstdout]
  simp

/-- Logging adds log lines, and none if they go elsewhere. -/
theorem adds_logged (site : Site) (s : Setting) (verbose : Bool) (t : Terminal)
    (events : List Event) : site.Adds t (site.logged s verbose t events) [] := by
  refine ⟨(((site.workplace s verbose).logger.writeAll s.time .catalog events).filter
    (·.1 = .stdout)).map (·.2), ?_, fun hquiet => ?_⟩
  · rw [Site.logged, (t.streams_withLines _).1, List.map_nil, List.append_nil]
  · rw [List.map_eq_nil_iff, List.filter_eq_nil_iff]
    intro w hw hstdout
    rw [decide_eq_true_iff] at hstdout
    rcases site.destination_writeAll hw with hstream | ⟨sink, hsink, hdestination⟩
    · rw [hstream] at hstdout
      exact absurd hstdout nofun
    · exact hquiet sink hsink (hdestination.trans hstdout)

theorem adds_visited (site : Site) (s : Setting) (verbose : Bool) (t : Terminal) (k : Catalog) :
    site.Adds t (site.visited s verbose t k) [] :=
  adds_logged site s verbose { t with shelf := k.desk.shelf } k.desk.log

/-- The terminal with a record printed. -/
def Terminal.printed (t : Terminal) (record : Json.Value) : Terminal :=
  { t with stdout := t.stdout ++ [Json.render record] }

theorem adds_printed (site : Site) (t : Terminal) (record : Json.Value) :
    site.Adds t (t.printed record) [record] :=
  ⟨[], by rw [List.append_nil]; rfl, fun _ => rfl⟩

/-- The record that tells of a build. -/
def Site.report (site : Site) (indexed skipped : Nat) : Json.Value :=
  .object [("indexed", .int indexed), ("skipped", .int skipped),
    ("index_path", .text site.index.text)]

/-- The record that tells of the documents. -/
def Site.census (site : Site) (documents : Nat) : Json.Value :=
  .object [("index_path", .text site.index.text), ("documents", .int documents)]

/-! ## Commands that ask

A count and a look-up of a full name are questions to the catalogue in a visit. What they print is
worked out from the documents, which are the projections of elements. -/

section

variable (verbose : Bool) (hsound : site.Sound) (hs : s.surroundings = site.surroundings)

include hsound hs

/-- What a set-up terminal counts. -/
theorem run_stats (h : site.SetUp c t.shelf) :
    ∃ u, ((site.workplace s verbose).stats).run.run t = (.ok (), u) ∧ site.Adds t u
      [site.census c.live.length] := by
  obtain ⟨place, files, hopens⟩ := h.opens
  have hcount := Catalog.visit_docCount (k := site.catalog t.shelf) rfl hopens
  rcases hr : (Catalog.visit (Catalog.onIndex Desk.docCount)).outcome (site.catalog t.shelf)
    with ⟨r, k⟩
  rw [hr] at hcount
  obtain rfl : r = .ok c.live.length := hcount
  -- first the catalog is opened and closed, then the record is printed
  refine ⟨(site.visited s verbose t k).printed (site.census c.live.length), ?_,
    (adds_visited site s verbose t k).trans (adds_printed _ _ _)⟩
  rw [Workplace.stats, run_bind_of_ok (run_withCatalog verbose hsound hs h.folder hr),
    run_bind_of_ok (run_indexFolder hsound hs _)]
  rfl

/-- What a set-up terminal finds by a full name. -/
theorem run_searchFullName (h : site.SetUp c t.shelf) (hlive : c.live = es.map projection)
    {fullName : String} (hshort : fullName.utf8ByteSize < Document.maxValueBytes) :
    ∃ u, (∃ e ∈ es, e.fullName = fullName ∧
        ((site.workplace s verbose).searchFullName fullName).run.run t = (.ok (), u) ∧
          site.Adds t u [(Summary.ofElement e).toRecord]) ∨
      (∀ e ∈ es, e.fullName ≠ fullName) ∧
        ((site.workplace s verbose).searchFullName fullName).run.run t =
          (.error (.notFound ("No element named '" ++ fullName ++ "'")), u) ∧ site.Adds t u [] := by
  obtain ⟨place, files, hopens⟩ := h.opens
  have hfound := Catalog.visit_byFullName (k := site.catalog t.shelf) rfl hopens hlive hshort
  rcases hr : (Catalog.visit (Catalog.search (.byFullName (.text fullName)))).outcome
    (site.catalog t.shelf) with ⟨r, k⟩
  rw [hr] at hfound
  replace hfound : r = _ := hfound
  rw [hfound] at hr
  have hrun := run_withCatalog verbose hsound hs h.folder hr
  -- only the first match is shown, so what counts is whether there is one
  rcases hmatches : es.filter (·.fullName = fullName) with _ | ⟨e, rest⟩ <;> rw [hmatches] at hrun
  · refine ⟨site.visited s verbose t k, .inr ⟨?_, ?_, adds_visited site s verbose t k⟩⟩
    · intro e he hname
      exact absurd (List.filter_eq_nil_iff.mp hmatches e he) (by simp [hname])
    · rw [Workplace.searchFullName, run_bind_of_ok hrun]
      rfl
  · have hmem : e ∈ es.filter (·.fullName = fullName) := by
      rw [hmatches]
      exact List.mem_cons_self
    rw [List.mem_filter, decide_eq_true_iff] at hmem
    refine ⟨(site.visited s verbose t k).printed _, .inl ⟨e, hmem.1, hmem.2, ?_,
      (adds_visited site s verbose t k).trans (adds_printed _ _ _)⟩⟩
    rw [Workplace.searchFullName, run_bind_of_ok hrun]
    rfl

/-! ## Builds

A build reads its stream to the end, rebuilds, and tells the two counts. If the stream cannot be
read or the index refuses, the shelf keeps the collection that it had. -/

/-- The catalogue is built anew from elements: the last one with each id is kept, or nothing has
changed. -/
theorem run_rebuild (h : site.SetUp c t.shelf) (es : List Element) :
    (∃ c' u, (∀ e ∈ Store.latest es, Indexable e) ∧ ((site.workplace s verbose).withCatalog
        (Catalog.build (es.map fun e => .ok (some e)))).run.run t =
          (.ok (es.map (·.id)).eraseDups.length, u) ∧
      c'.live = (Store.latest es).map projection ∧ site.SetUp c' u.shelf ∧ site.Adds t u []) ∨
    (∃ e u, ¬ (∀ e ∈ Store.latest es, Indexable e) ∧ ((site.workplace s verbose).withCatalog
        (Catalog.build (es.map fun e => .ok (some e)))).run.run t = (.error (.refused e), u) ∧
      site.SetUp c u.shelf ∧ ∃ files, u.shelf = { t.shelf with files := files }) := by
  obtain ⟨place, files, hopens⟩ := h.opens
  have hbuild := Catalog.visit_build (k := site.catalog t.shelf) rfl hopens es
  rcases hv : (Catalog.visit (Catalog.build (es.map fun e => .ok (some e)))).outcome
    (site.catalog t.shelf) with ⟨r, k⟩
  rw [hv] at hbuild
  have hrun := run_withCatalog verbose hsound hs h.folder hv
  have hadds := adds_visited site s verbose t k
  -- the visit leaves what is set up, and the lines of its log change no file that counts
  obtain ⟨c', hes, rfl, hlive, hshelf⟩ | ⟨e, hes, rfl, hshelf⟩ := hbuild
  · have hkept : site.SetUp c' k.desk.shelf := by
      rw [hshelf]
      exact h.keep hopens c'
    exact .inl ⟨c', _, hes, hrun, hlive, hkept.logged hsound, hadds⟩
  · have hkept : site.SetUp c k.desk.shelf := by
      rw [hshelf]
      exact h.opened hopens
    refine .inr ⟨e, _, hes, hrun, hkept.logged hsound, (site.visited s verbose t k).shelf.files, ?_⟩
    rw [Site.visited, shelf_logged, hshelf]
    rfl

/-- A build either is done and keeps the last element with each id, or fails and keeps what was
there. -/
theorem run_build (h : site.SetUp c t.shelf) {path : Path} {bytes : ByteArray}
    (hbytes : t.shelf.files.bytesAt site.folder.parts path = .ok bytes) :
    (∃ es skipped c' u, Stream.Holds s.freshId bytes es skipped ∧
      (∀ e ∈ Store.latest es, Indexable e) ∧
      ((site.workplace s verbose).build path).run.run t = (.ok (), u) ∧
      site.Adds t u [site.report (es.map (·.id)).eraseDups.length skipped] ∧
      c'.live = (Store.latest es).map projection ∧ site.SetUp c' u.shelf) ∨
    (∃ e u, (∀ es skipped, Stream.Holds s.freshId bytes es skipped →
        ¬ ∀ e ∈ Store.latest es, Indexable e) ∧
      ((site.workplace s verbose).build path).run.run t = (.error e, u) ∧ e.code = 1 ∧
      site.SetUp c u.shelf ∧ ∃ files, u.shelf = { t.shelf with files := files }) := by
  have hread := run_readStream s verbose h.folder hbytes
  have hholds (es : List Element) (skipped : Nat) : Stream.Holds s.freshId bytes es skipped ↔ _ :=
    Stream.readBytes_holds path.text
  rcases hr : Stream.readBytes path.text s.freshId bytes with ⟨es, skipped, events, fault⟩
  rw [hr] at hread hholds
  have hlogged : site.SetUp c (site.logged s verbose t events).shelf := h.logged hsound
  have hadds := adds_logged site s verbose t events
  -- what is read to its end is built from; a fault ends the command before that
  rcases fault with _ | f
  · obtain ⟨c', u, hes, hrun, hlive, hkept, hadds'⟩ | ⟨e, u, hes, hrun, hkept, files, hshelf⟩ :=
      run_rebuild verbose hsound hs hlogged es
    · refine .inl ⟨es, skipped, c', u.printed (site.report _ skipped),
        (hholds es skipped).mpr ⟨rfl, rfl, rfl⟩, hes, ?_,
        (hadds.trans hadds').trans (adds_printed _ _ _), hlive, hkept⟩
      rw [Workplace.build, run_bind_of_ok hread]
      dsimp only
      rw [run_bind_of_ok hrun, run_bind_of_ok (run_indexFolder hsound hs _)]
      rfl
    · refine .inr ⟨.refused e, u, fun es' skipped' hholds' => ?_, ?_, rfl, hkept, files, ?_⟩
      · obtain ⟨-, rfl, -⟩ := (hholds es' skipped').mp hholds'
        exact hes
      · rw [Workplace.build, run_bind_of_ok hread]
        dsimp only
        rw [run_bind_of_error hrun]
      · rw [hshelf, shelf_logged]
  · refine .inr ⟨.failed (.failure (.fault f)), _, fun es' skipped' hholds' => ?_, ?_, rfl, hlogged, _,
      shelf_logged ..⟩
    · exact absurd ((hholds es' skipped').mp hholds').1 nofun
    · rw [Workplace.build, run_bind_of_error hread]

end

/-! ## What is written behind a command

A word that begins like an option is written behind two hyphens. Written so, what stands behind a
command is read as it is meant. -/

variable {w : Workplace} {file : String}

/-- A count takes no words. -/
theorem finish_stats (w : Workplace) (t : Terminal) :
    (w.finish (some .stats) []).run.run t = w.stats.run.run t := by
  rw [w.finish_read rfl]
  rfl

/-- A search for a full name is told by two words; the second one is taken as it is spelled. -/
theorem finish_fullName (w : Workplace) (t : Terminal) (fullName : String) :
    (w.finish none ("fullname" :: spelled fullName)).run.run t =
      (w.searchFullName fullName).run.run t := by
  have hsearch : (Run.read searchGrammar ("fullname" :: spelled fullName)).run.run t =
      (.ok ([], "fullname" :: spelled fullName), t) := by
    rw [run_read, readResult, read_name rfl rfl (by decide +kernel)]
    rfl
  have hfind : (findCommand none ("fullname" :: spelled fullName)).run.run t =
      (.ok (.byFullName, spelled fullName), t) := by
    rw [findCommand, run_bind_of_ok hsearch]
    rfl
  -- from here on it is a command that was named at once
  have hnamed : (w.finish none ("fullname" :: spelled fullName)).run.run t =
      (w.finish (some .byFullName) (spelled fullName)).run.run t := by
    rw [Workplace.finish, run_bind_of_ok hfind]
    rfl
  rw [hnamed, w.finish_read (read_spelled (g := Command.byFullName.grammar) rfl rfl rfl)]
  rfl

/-- The file that a word names has its bytes. -/
theorem bytesAt_of_entryAt? {folder : Place} {bytes : ByteArray}
    (h : Grammar.entryAt? tree folder file = some (.file bytes)) :
    tree.bytesAt folder (.ofText file) = .ok bytes := by
  rw [Grammar.entryAt?] at h
  split_ifs at h
  exact Tree.bytesAt_of_at? h (by simp)

/-- A build takes the word for its file as it is spelled. -/
theorem finish_build (w : Workplace) {bytes : ByteArray} (hfile : Grammar.entryAt? t.shelf.files
      t.shelf.folder.parts file = some (.file bytes)) :
    (w.finish (some .build) (spelled file)).run.run t = (w.build (.ofText file)).run.run t := by
  have hvalue : Grammar.valueOf t.shelf.files t.shelf.folder.parts .existingFile file =
      .ok (.path (.ofText file)) := by
    rw [Grammar.valueOf, hfile]
  rw [w.finish_read (read_spelled (g := Command.build.grammar) rfl rfl hvalue)]
  rfl

/-! ## What is kept

A build that is done leaves a shelf that is ready with the new documents, and a shelf that is ready
stays so through anything but a build. So later invocations answer from what was built. -/

/-- **What invocations answer from elements**: they tell how many there are, and they show one with a
full name, or fail if there is none. -/
structure Site.Answers (site : Site) (es : List Element) (shelf : Shelf) : Prop where
  stats : ∀ i : Invocation, i.Fits site → i.name = "stats" → i.words = [] →
    exitCode (i.run shelf).1 = 0 ∧ site.Prints (i.run shelf).2 [site.census es.length]
  fullName : ∀ (i : Invocation) (fullName : String), i.Fits site → i.name = "search" →
    i.words = "fullname" :: spelled fullName →
    fullName.utf8ByteSize < Document.maxValueBytes →
    (∃ e ∈ es, e.fullName = fullName ∧ exitCode (i.run shelf).1 = 0 ∧
      site.Prints (i.run shelf).2 [(Summary.ofElement e).toRecord]) ∨
    (∀ e ∈ es, e.fullName ≠ fullName) ∧ exitCode (i.run shelf).1 = 1 ∧
      site.Prints (i.run shelf).2 []

/-- A shelf that is ready with the documents of elements answers from them. -/
theorem Site.Ready.answers (hsound : site.Sound) (h : site.Ready c shelf)
    (hlive : c.live = es.map projection) : site.Answers es shelf where
  stats i hfits hname hwords := by
    have hmem : (i.name, some Command.stats) ∈ commands := by
      rw [hname]
      decide
    -- the command runs on the shelf with the log files created
    obtain ⟨tree, hsetUp, hrun⟩ := run_fits hsound hfits hmem h
    obtain ⟨u, hstats, hadds⟩ := run_stats (t := { shelf := { shelf with files := tree } })
      i.front.verbose hsound hfits.surroundings hsetUp
    rw [hwords, finish_stats, hstats] at hrun
    rw [hrun, show es.length = c.live.length by rw [hlive, List.length_map]]
    exact ⟨rfl, hadds.prints⟩
  fullName i fullName hfits hname hwords hshort := by
    have hmem : (i.name, none) ∈ commands := by
      rw [hname]
      decide
    obtain ⟨tree, hsetUp, hrun⟩ := run_fits hsound hfits hmem h
    rw [hwords, finish_fullName] at hrun
    obtain ⟨u, ⟨e, he, hfull, hfound, hadds⟩ | ⟨hnone, hmissing, hadds⟩⟩ := run_searchFullName
      (t := { shelf := { shelf with files := tree } }) i.front.verbose hsound hfits.surroundings
      hsetUp hlive hshort
    · rw [hfound] at hrun
      rw [hrun]
      exact .inl ⟨e, he, hfull, rfl, hadds.prints⟩
    · rw [hmissing] at hrun
      rw [hrun]
      exact .inr ⟨hnone, rfl, hadds.prints⟩

/-- What an ending shows leaves the shelf as it is. -/
theorem shelf_addTo (e : Ending) (t : Terminal) : (e.addTo t).shelf = t.shelf := by
  cases e with
  | help asked =>
    cases asked with
    | false => rfl
    | true => rfl
  | version => rfl
  | usage => rfl
  | refused => rfl
  | notFound => rfl
  | failed => rfl

/-- A word is one of those that it is spelled by. -/
theorem mem_spelled (s : String) : s ∈ spelled s := by
  rw [spelled]
  split
  · simp
  · simp

/-- What invocations find around them, with some variables. -/
def settingWith (vars : List (String × String)) : Setting where
  surroundings := { homes := { own := "/home" }, userFile := .ofText "/user.yaml", vars := vars }
  time := "12:00"
  request := "r"
  freshId := fun number => toString number

/-- The record of a class, on a line of its own. -/
def classLine (id fullName : String) : String :=
  r#"{"kind": "Class", "name": "A", "id": ""# ++ id ++ r#"", "full_name": ""# ++ fullName ++
    r#""}"# ++ "\n"

/-- The element of that record. -/
def classOf (id fullName : String) : Element :=
  { id := id, name := "A", fullName := fullName, payload := .type .classType {} }

/-- A stream with two records of one id, and a line that is rejected. -/
def mixedStream : String :=
  classLine "a" "n.A" ++ "[]\n" ++ classLine "a" "n.B"

/-- A root with nothing but that stream. -/
def mixedSite : Site where
  surroundings := (settingWith []).surroundings
  folder := ⟨1, []⟩
  files := ⟨[(["e"], .file mixedStream.toUTF8)]⟩
  root := ⟨1, []⟩
  settings := {}
  index := ⟨1, [".codeindexer", "index"]⟩

/-- The build of the stream. -/
def mixedBuild : Invocation where
  setting := settingWith []
  name := "build"
  words := ["e"]

/-- Nothing but the built-in settings is there. -/
theorem ofSources_mixedSite : Settings.ofSources mixedSite.surroundings.homes
    (Settings.combine (Settings.sectionsFirst []) [] [] []) = .ok mixedSite.settings :=
  Settings.ofSources_eq_ok_iff.mpr (by decide +kernel)

/-- No settings file is there, and no log goes to a file. -/
theorem sound_mixedSite : mixedSite.Sound := by
  have hload : Settings.load mixedSite.files [] mixedSite.surroundings ⟨1, []⟩ [] = .ok {} :=
    (Settings.load_eq_ok_iff rfl rfl).mpr ⟨.inl rfl, [], rfl, ofSources_mixedSite⟩
  -- neither settings file is there, and neither is made
  refine Site.sound_of_apart [".codeindexer", "config.yaml"] ["user.yaml"] hload rfl ?_ ?_ nofun
  · exact ⟨by decide +kernel, by decide +kernel, nofun, by decide +kernel, .inr rfl⟩
  · exact ⟨by decide +kernel, by decide +kernel, nofun, by decide +kernel, .inr rfl⟩

/-- The index is made when it is first opened. -/
theorem ready_mixedSite : mixedSite.Ready {} { files := mixedSite.files } := by
  obtain ⟨files, hopens⟩ : ∃ files, Opens { files := mixedSite.files } mixedSite.handle
      [".codeindexer", "index"] {} files :=
    Opens.fresh nofun rfl rfl rfl ⟨128000000, 0, rfl, rfl, rfl, rfl⟩
  exact ⟨rfl, .refl _ _ _, mixedSite.files, _, files, rfl, hopens⟩

/-- The build is one of the site, and nothing that the site grows by is its stream. -/
theorem fits_mixedBuild : mixedBuild.Fits mixedSite where
  surroundings := rfl
  front := nofun
  root := by decide +kernel
  name := by decide
  spares := by
    intro _ word hword tree htree
    obtain rfl := List.mem_singleton.mp hword
    have hplace : (Path.ofText "e").place? mixedSite.folder.parts = some ["e"] := by
      decide +kernel
    -- the log of the site is no file that the invocation reads
    refine Tree.at?_grown (x := .file mixedStream.toUTF8) htree (by with_unfolding_all rfl) ?_
    intro q hq
    rw [hplace] at hq
    obtain rfl := Option.some.inj hq
    decide +kernel

/-- The stream holds two elements of one id, and one line is rejected. -/
theorem holds_mixedStream : Stream.Holds mixedBuild.setting.freshId mixedStream.toUTF8
    [classOf "a" "n.A", classOf "a" "n.B"] 1 :=
  (Stream.readBytes_holds "").mpr
    ⟨by decide +kernel, by decide +kernel, by decide +kernel⟩

/-- Nothing in the stream is escaped. -/
theorem pairsHalves_mixedStream : Stream.PairsHalves mixedStream.toUTF8 := by
  intro text htext line hline _ _
  have hlines : (Stream.decode? mixedStream.toUTF8).all fun text =>
      (Text.lines text).all (Json.pairsHalves false) := by
    decide +kernel
  rw [htext, Option.all_some, List.all_eq_true] at hlines
  exact hlines line hline

/-- What an invocation with some variables does on a shelf. -/
def invokeOn (vars : List (String × String)) (shelf : Shelf) (line : List String) :
    Option Ending × Terminal :=
  CommandLine.run (settingWith vars) line { shelf := shelf }

/-- The shelf that invocations leave one after the other. -/
def leftBy (vars : List (String × String)) (lines : List (List String)) (shelf : Shelf) : Shelf :=
  lines.foldl (fun shelf line => (invokeOn vars shelf line).2.shelf) shelf

/-- Variables by which warnings are logged to a file. -/
def logTo (destination : String) : List (String × String) :=
  [("CODEINDEXER__LOGGING__LEVEL", "WARNING"), ("CODEINDEXER__LOGGING__OUTPUTS",
    r#"[{"format": "json", "destination": ""# ++ destination ++ r#""}]"#)]

/-- A stream with an element whose full name begins like an option. -/
def optionShelf : Shelf where
  files := ⟨[(["e"], .file (classLine "a" "-x").toUTF8)]⟩

/-- A stream with an element and a line that is rejected, and the settings of the user. -/
def settingsShelf : Shelf where
  files := ⟨[(["e"], .file (classLine "a" "n.A" ++ "x").toUTF8),
    (["user.yaml"], .file "{}\n".toUTF8)]⟩

/-- A stream with an element, one with a line that is rejected, and an index. -/
def stateShelf : Shelf where
  files := ⟨[(["e"], .file (classLine "a" "n.A").toUTF8), (["b"], .file "x".toUTF8),
    ([".codeindexer"], .folder), ([".codeindexer", "index"], .folder),
    ([".codeindexer", "index", Desk.listFile], .file Desk.firstList),
    ([".codeindexer", "index", Desk.stateFile], (Artifact.collection {}).entry)]⟩

end CodeCatalog.CommandLine
