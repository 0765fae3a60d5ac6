/-
What commands do at a site that is set up.

Two terminals meet (`Site.Meets`) if they show the same and differ in the files alone, and both are set
up with the same collection. A command that runs on two terminals that meet ends the same on both and
they meet again: log lines go to the same streams and to files that count for nothing, a visit to the
catalogue starts from the same collection, and nothing else is looked at. Only a build may change the
collection, and it does so alike on both (`parallel_build`).

On one terminal the same says that what is set up stays set up. What the commands print is told by the
visits they make.
-/
import CodeCatalog.Proofs.Catalog.Visit
import CodeCatalog.Proofs.CommandLine.Site

set_option autoImplicit false

namespace CodeCatalog.CommandLine

open Act Log Search
open Desk (listFile stateFile)

variable {α β : Type} {t t' : Terminal} {site : Site} {c : Collection} {lines : List Written}

/-! ## Lines

What an invocation logs is a list of lines, each with where it goes. Writing them is adding to
streams and files, and the order among those that go to one place is kept. -/

namespace Terminal

/-- The terminal with log lines. -/
def withLines (t : Terminal) (lines : List Written) : Terminal :=
  let start : Output Artifact := { stderr := t.stderr, stdout := t.stdout, tree := t.shelf.files }
  let o := start.addAll t.shelf.folder.parts lines
  { t with shelf := { t.shelf with files := o.tree }, stdout := o.stdout, stderr := o.stderr }

theorem withLines_cons (t : Terminal) (w : Written) (lines : List Written) :
    t.withLines (w :: lines) = (t.withLines [w]).withLines lines := rfl

/-- Lines for the two streams stand behind what they show. -/
theorem streams_withLines (t : Terminal) (lines : List Written) :
    (t.withLines lines).stdout = t.stdout ++ (lines.filter (·.1 = .stdout)).map (·.2) ∧
    (t.withLines lines).stderr = t.stderr ++ (lines.filter (·.1 = .stderr)).map (·.2) := by
  induction lines generalizing t with
  | nil => exact ⟨(List.append_nil _).symm, (List.append_nil _).symm⟩
  | cons w lines ih =>
    obtain ⟨hout, herr⟩ := ih (t.withLines [w])
    rw [withLines_cons, hout, herr]
    obtain ⟨d, line⟩ := w
    -- the line goes to one of the streams, or to a file
    rcases d with _ | _ | path
    · refine ⟨rfl, ?_⟩
      rw [List.filter_cons_of_pos (by simp), List.map_cons]
      exact List.append_assoc _ [line] _
    · refine ⟨?_, rfl⟩
      rw [List.filter_cons_of_pos (by simp), List.map_cons]
      exact List.append_assoc _ [line] _
    · exact ⟨rfl, rfl⟩

end Terminal

/-! ## Terminals that meet

Two terminals meet if they have shown the same and their shelves hold the same index, whatever else
has grown in the log files. This is what all commands are compared by. -/

namespace Site

/-- **Terminals that meet** show the same, differ in the files alone, and are set up with the same
collection. -/
structure Meets (site : Site) (c : Collection) (t t' : Terminal) : Prop where
  stdout : t'.stdout = t.stdout
  stderr : t'.stderr = t.stderr
  shelf : ∃ files, t'.shelf = { t.shelf with files := files }
  left : site.SetUp c t.shelf
  right : site.SetUp c t'.shelf

theorem SetUp.meets (h : site.SetUp c t.shelf) : site.Meets c t t :=
  ⟨rfl, rfl, ⟨t.shelf.files, rfl⟩, h, h⟩

/-- A line that goes to a stream or to a log file of the site. -/
def Takes (site : Site) (w : Written) : Prop :=
  ∀ path, w.1 = .file path → path ∈ site.logFiles

/-- Terminals that meet do so after the same lines, as long as these go where the site allows. -/
theorem Meets.withLines (hsound : site.Sound) (h : site.Meets c t t')
    (hlines : ∀ w ∈ lines, site.Takes w) :
    site.Meets c (t.withLines lines) (t'.withLines lines) := by
  -- one line at a time: those for the streams go to both terminals, and one for a log file goes to
  -- files that the site allows
  induction lines generalizing t t' with
  | nil => exact h
  | cons w lines ih =>
    rw [List.forall_mem_cons] at hlines
    rw [Terminal.withLines_cons, Terminal.withLines_cons t']
    refine ih ?_ hlines.2
    obtain ⟨files, hshelf⟩ := h.shelf
    obtain ⟨d, line⟩ := w
    rcases d with _ | _ | path
    · exact ⟨h.stdout, congrArg (· ++ [line]) h.stderr, ⟨files, hshelf⟩, h.left, h.right⟩
    · exact ⟨congrArg (· ++ [line]) h.stdout, h.stderr, ⟨files, hshelf⟩, h.left, h.right⟩
    · have hpath : path ∈ site.logFiles := hlines.1 path rfl
      refine ⟨h.stdout, h.stderr, ⟨appendLine t'.shelf.files t'.shelf.folder.parts path line, ?_⟩,
        h.left.append hsound hpath line, h.right.append hsound hpath line⟩
      show { t'.shelf with files := appendLine t'.shelf.files t'.shelf.folder.parts path line } = _
      rw [hshelf]
      rfl

/-! ## Workplaces

The settings and the words before a command give an invocation its logger. Where its lines go is
decided by the settings alone, and a sound site takes them all. -/

/-- What a command works with at the site. -/
def workplace (site : Site) (s : Setting) (verbose : Bool) : Workplace where
  setting := s
  root := site.root
  settings := site.settings
  logger := Logger.ofSettings
    (if verbose then { site.settings.logging with level := .debug } else site.settings.logging)
    (some s.request)

/-- The level changes nothing about where lines go. -/
theorem map_destination (s : LogSettings) (request : Option String) :
    (Logger.ofSettings s request).sinks.map (·.destination) =
      s.outputs.map fun o => .ofText o.destination := by
  rw [Logger.ofSettings, List.map_map]
  rfl

/-- The words of an invocation change the format and the level of its sinks, not where they lead. -/
theorem destinations_workplace (site : Site) (s : Setting) (verbose : Bool) :
    (site.workplace s verbose).logger.sinks.map (·.destination) =
      site.sinks.map (·.destination) := by
  rw [workplace, sinks, map_destination, map_destination]
  cases verbose with
  | false => rfl
  | true => rfl

/-- The lines of a command go to the error stream or to a sink of the site. -/
theorem destination_writeAll (site : Site) {s : Setting} {verbose : Bool} {events : List Event}
    {w : Written} (hw : w ∈ (site.workplace s verbose).logger.writeAll s.time .catalog events) :
    w.1 = .stderr ∨ ∃ sink ∈ site.sinks, sink.destination = w.1 := by
  rcases destination_of_mem_writeAll rfl hw with hstream | ⟨sink, hsink, hdestination⟩
  · exact .inl hstream
  · have hmem := List.mem_map_of_mem (f := Sink.destination) hsink
    rw [destinations_workplace] at hmem
    obtain ⟨sink', hsink', heq⟩ := List.mem_map.mp hmem
    exact .inr ⟨sink', hsink', heq.trans hdestination⟩

/-- All that an invocation logs goes to a sink of the site or to a stream. -/
theorem takes_writeAll (site : Site) (s : Setting) (verbose : Bool) (events : List Event) :
    ∀ w ∈ (site.workplace s verbose).logger.writeAll s.time .catalog events, site.Takes w := by
  intro w hw path hpath
  rcases site.destination_writeAll hw with hstream | ⟨sink, hsink, hdestination⟩
  · rw [hstream] at hpath
    exact absurd hpath nofun
  · refine List.mem_filterMap.mpr ⟨sink, hsink, ?_⟩
    rw [hdestination, hpath]

end Site

variable {s : Setting} {verbose : Bool} {k k' : Catalog}

/-- The terminal with the lines of events that a command tells. -/
def Site.logged (site : Site) (s : Setting) (verbose : Bool) (t : Terminal) (events : List Event) :
    Terminal :=
  t.withLines ((site.workplace s verbose).logger.writeAll s.time .catalog events)

theorem run_log (t : Terminal) (events : List Event) :
    ((site.workplace s verbose).log events).run.run t = (.ok (), site.logged s verbose t events) :=
  rfl

theorem Site.Meets.log (hsound : site.Sound) (h : site.Meets c t t') (events : List Event) :
    site.Meets c (site.logged s verbose t events) (site.logged s verbose t' events) :=
  h.withLines hsound (site.takes_writeAll s verbose events)

theorem Site.SetUp.logged (h : site.SetUp c t.shelf) (hsound : site.Sound) {events : List Event} :
    site.SetUp c (site.logged s verbose t events).shelf :=
  (h.meets.log hsound events).left

/-- Log lines change files and nothing else. -/
theorem shelf_logged (site : Site) (s : Setting) (verbose : Bool) (t : Terminal)
    (events : List Event) : (site.logged s verbose t events).shelf =
      { t.shelf with files := (site.logged s verbose t events).shelf.files } := rfl

theorem parallel_print (record : Json.Value) : Parallel (site.Meets c) (Run.print record) :=
  Parallel.modify fun _ _ h =>
    ⟨congrArg (· ++ [Json.render record]) h.stdout, h.stderr, h.shelf, h.left, h.right⟩

/-! ## Visits

A command works on the catalogue in a visit, and what the catalogue has logged is written when the
visit is over. Terminals that meet before a visit meet after it. -/

/-- How the end of a visit is told. -/
def ended (r : Except Failure α) : Except Ending α :=
  r.mapError fun
    | .catalog e => .refused e
    | .fault f => .failed (.failure (.fault f))

/-- The catalogue that a command visits. -/
def Site.catalog (site : Site) (shelf : Shelf) : Catalog where
  limits := site.settings.limits
  desk := { shelf := shelf, index := site.handle }

/-- The terminal after a visit that left the catalogue so. -/
def Site.visited (site : Site) (s : Setting) (verbose : Bool) (t : Terminal) (k : Catalog) :
    Terminal :=
  site.logged s verbose { t with shelf := k.desk.shelf } k.desk.log

/-- A failure ends the invocation with what is told of it. -/
theorem run_failWith (f : Failure) (t : Terminal) :
    (Run.failWith f : Run α).run.run t = (ended (.error f), t) := by
  cases f with
  | catalog => rfl
  | fault => rfl

/-- Where the index is, is told without a look at it. -/
theorem run_indexFolder_of (hindex : Settings.indexFolder site.surroundings.homes site.root
      site.settings = .ok site.index) (hs : s.surroundings = site.surroundings) (t : Terminal) :
    ((site.workplace s verbose).indexFolder).run.run t = (.ok site.index, t) := by
  rw [← hs] at hindex
  rw [Workplace.indexFolder]
  simp only [Site.workplace, hindex]
  rfl

/-- An invocation of the site works with the index of the site. -/
theorem run_indexFolder (hsound : site.Sound) (hs : s.surroundings = site.surroundings)
    (t : Terminal) :
    ((site.workplace s verbose).indexFolder).run.run t = (.ok site.index, t) :=
  run_indexFolder_of hsound.index hs t

/-- A command visits the catalogue where the shelf is, and leaves the shelf where the visit does. -/
theorem withCatalog_eq (w : Workplace) (act : Act Catalog α) : w.withCatalog act = (do
    let path ← w.indexFolder
    let t ← get
    let (r, k) := (Catalog.visit act).outcome {
      limits := w.settings.limits
      desk := {
        shelf := t.shelf
        index := Catalog.indexOf t.shelf.folder path w.settings.index } }
    modify fun t => { t with shelf := k.desk.shelf }
    w.log k.desk.log
    match r with
    | .ok a => return a
    | .error f => Run.failWith f) := rfl

/-- A command visits the catalogue, and logs what was told there. -/
theorem run_withCatalog (verbose : Bool) (hsound : site.Sound) (hs : s.surroundings = site.surroundings)
    (hfolder : t.shelf.folder = site.folder) {act : Act Catalog α} {r : Except Failure α}
    (hvisit : (Catalog.visit act).outcome (site.catalog t.shelf) = (r, k)) :
    ((site.workplace s verbose).withCatalog act).run.run t =
      (ended r, site.visited s verbose t k) := by
  -- the state of the terminal is read and written without running anything
  have hget : (get : Run Terminal).run.run t = (.ok t, t) := rfl
  have hmodify : (modify fun t : Terminal => { t with shelf := k.desk.shelf } : Run PUnit).run.run t
    = (.ok ⟨⟩, { t with shelf := k.desk.shelf }) := rfl
  rw [Site.catalog, Site.handle, ← hfolder] at hvisit
  rw [withCatalog_eq, run_bind_of_ok (run_indexFolder hsound hs t), run_bind_of_ok hget]
  simp only [show (site.workplace s verbose).settings = site.settings from rfl, hvisit]
  rw [run_bind_of_ok hmodify, run_bind_of_ok (run_log _ _)]
  rcases r with f | a
  · exact run_failWith f _
  · rfl

namespace Site

/-- On terminals that meet, the index is opened at one place. -/
theorem Meets.opens (h : site.Meets c t t') : ∃ place files files',
    Opens t.shelf site.handle place c files ∧ Opens t'.shelf site.handle place c files' := by
  obtain ⟨place, files, hopens⟩ := h.left.opens
  obtain ⟨place', files', hopens'⟩ := h.right.opens
  have hplace := hopens.place?
  rw [h.left.folder, ← h.right.folder, hopens'.place?] at hplace
  obtain rfl := Option.some.inj hplace
  exact ⟨place', files, files', hopens, hopens'⟩

/-- What a command visits on terminals that meet differs in the files alone. -/
theorem Meets.catalog (h : site.Meets c t t') : ∃ files, site.catalog t'.shelf =
    { site.catalog t.shelf with desk := { (site.catalog t.shelf).desk with
        shelf := { t.shelf with files := files } } } := by
  obtain ⟨files, hshelf⟩ := h.shelf
  exact ⟨files, by rw [hshelf]; rfl⟩

/-- After visits that left the same, the terminals meet again. -/
theorem Meets.visited {q : Place} {c' : Collection} (hsound : site.Sound) (h : site.Meets c t t')
    (halike : Catalog.Alike q k k') (hleft : site.SetUp c' k.desk.shelf)
    (hright : site.SetUp c' k'.desk.shelf) :
    site.Meets c' (site.visited s verbose t k) (site.visited s verbose t' k') := by
  obtain ⟨-, -, files, hdesk, -⟩ := halike
  have hlog : k'.desk.log = k.desk.log := by rw [hdesk]
  have hshelf : k'.desk.shelf = { k.desk.shelf with files := files } := by rw [hdesk]
  rw [Site.visited, Site.visited, hlog]
  refine Meets.log hsound ?_ _
  exact ⟨h.stdout, h.stderr, ⟨files, hshelf⟩, hleft, hright⟩

end Site

/-- **A visit on terminals that meet** returns the same on both, and they meet again with whatever
collection it leaves on both. -/
theorem Site.Meets.withCatalog (hsound : site.Sound) (hs : s.surroundings = site.surroundings)
    (h : site.Meets c t t') {act : Act Catalog α} (hact : ∀ q, Parallel (Catalog.Alike q) act)
    {c' : Collection}
    (hleft : site.SetUp c' ((Catalog.visit act).outcome (site.catalog t.shelf)).2.desk.shelf)
    (hright : site.SetUp c' ((Catalog.visit act).outcome (site.catalog t'.shelf)).2.desk.shelf) :
    (((site.workplace s verbose).withCatalog act).run.run t).1 =
        (((site.workplace s verbose).withCatalog act).run.run t').1 ∧
      site.Meets c' (((site.workplace s verbose).withCatalog act).run.run t).2
        (((site.workplace s verbose).withCatalog act).run.run t').2 := by
  obtain ⟨place, files, files', hopens, hopens'⟩ := h.opens
  obtain ⟨between, hcatalog⟩ := h.catalog
  obtain ⟨hvalue, halike⟩ := Catalog.visit_alike (hact _) hcatalog rfl hopens hopens'
  -- both visits start from the same collection
  rcases hr : (Catalog.visit act).outcome (site.catalog t.shelf) with ⟨r, k⟩
  rcases hr' : (Catalog.visit act).outcome (site.catalog t'.shelf) with ⟨r', k'⟩
  rw [hr] at hvalue halike hleft
  rw [hr'] at hvalue halike hright
  obtain rfl : r = r' := hvalue
  rw [run_withCatalog verbose hsound hs h.left.folder hr,
    run_withCatalog verbose hsound hs h.right.folder hr']
  exact ⟨rfl, h.visited hsound halike hleft hright⟩

/-- **A visit that asks** keeps terminals together that meet. -/
theorem parallel_withCatalog (hsound : site.Sound) (hs : s.surroundings = site.surroundings)
    {act : Act Catalog α} (hact : ∀ q, Parallel (Catalog.Alike q) act)
    (hstill : Catalog.Still act) :
    Parallel (site.Meets c) ((site.workplace s verbose).withCatalog act) := by
  intro t t' h
  obtain ⟨place, files, files', hopens, hopens'⟩ := h.opens
  have hleft := (Catalog.visit_still hstill (k := site.catalog t.shelf) rfl hopens).2
  have hright := (Catalog.visit_still hstill (k := site.catalog t'.shelf) rfl hopens').2
  -- a search keeps nothing, so both sides are left as the opening made them
  refine h.withCatalog hsound hs hact ?_ ?_
  · rw [hleft]
    exact h.left.opened hopens
  · rw [hright]
    exact h.right.opened hopens'

/-- **A visit that builds** leaves terminals that meet with the same collection, whichever it is. -/
theorem parallel_build (hsound : site.Sound) (hs : s.surroundings = site.surroundings)
    (es : List Element) : Parallel (fun t t' => ∃ c, site.Meets c t t')
      ((site.workplace s verbose).withCatalog (Catalog.build (es.map fun e => .ok (some e)))) := by
  rintro t t' ⟨c, h⟩
  have hact (q) : Parallel (Catalog.Alike q) (Catalog.build (es.map fun e => .ok (some e))) :=
    Catalog.parallel_build _
  obtain ⟨place, files, files', hopens, hopens'⟩ := h.opens
  have hleft := Catalog.visit_build (k := site.catalog t.shelf) rfl hopens es
  have hright := Catalog.visit_build (k := site.catalog t'.shelf) rfl hopens' es
  obtain ⟨c₁, hes, -, -, hshelf⟩ | ⟨e, hes, -, hshelf⟩ := hleft
  · obtain ⟨c₂, -, -, -, hshelf'⟩ | ⟨e, hes', -, -⟩ := hright
    · -- both hold the same where the collection was kept
      obtain rfl : c₁ = c₂ := by
        obtain ⟨between, hcatalog⟩ := h.catalog
        obtain ⟨-, -, -, files, hdesk, hfiles⟩ :=
          Catalog.visit_alike (hact _) hcatalog rfl hopens hopens'
        rw [show files = _ from (congrArg (·.shelf.files) hdesk).symm, hshelf, hshelf'] at hfiles
        exact (Shelf.keep_inj hfiles).symm
      refine (h.withCatalog hsound hs hact ?_ ?_).imp_right fun hmeet => ⟨c₁, hmeet⟩
      · rw [hshelf]
        exact h.left.keep hopens c₁
      · rw [hshelf']
        exact h.right.keep hopens' c₁
    · exact absurd hes hes'
  · obtain ⟨c₂, hes', -⟩ | ⟨e', -, -, hshelf'⟩ := hright
    · exact absurd hes' hes
    · refine (h.withCatalog hsound hs hact ?_ ?_).imp_right fun hmeet => ⟨c, hmeet⟩
      · rw [hshelf]
        exact h.left.opened hopens
      · rw [hshelf']
        exact h.right.opened hopens'

/-! ## Streams

A stream is read before the catalogue is opened. On terminals that meet it is the same stream, and
so it is read alike. -/

/-- How the reading of a stream is told. -/
def readEnd (r : Stream.Reading) : Except Ending (List Element × Nat) :=
  match r.fault with
  | some f => .error (.failed (.failure (.fault f)))
  | none => .ok (r.elements, r.skipped)

/-- A stream is read and what was told is logged. -/
theorem run_readStream (s : Setting) (verbose : Bool) {path : Path} {bytes : ByteArray}
    (hfolder : t.shelf.folder = site.folder)
    (hbytes : t.shelf.files.bytesAt site.folder.parts path = .ok bytes) :
    ((site.workplace s verbose).readStream path).run.run t =
      (readEnd (Stream.readBytes path.text s.freshId bytes),
        site.logged s verbose t (Stream.readBytes path.text s.freshId bytes).events) := by
  have hread : Stream.readAt t.shelf.files t.shelf.folder.parts path s.freshId =
      .ok (Stream.readBytes path.text s.freshId bytes) := by
    rw [Stream.readAt, hfolder, hbytes]
    rfl
  have hfiles : Run.files.run.run t = (.ok t.shelf.files, t) := rfl
  have hplace : Run.folder.run.run t = (.ok t.shelf.folder, t) := rfl
  rw [Workplace.readStream, run_bind_of_ok hfiles, run_bind_of_ok hplace]
  rw [show (site.workplace s verbose).setting.freshId = s.freshId from rfl, hread]
  dsimp only
  generalize Stream.readBytes path.text s.freshId bytes = r
  rw [run_bind_of_ok (run_log t r.events), readEnd]
  rcases r.fault with _ | f
  · rfl
  · rfl

/-- A stream that is the same in all trees of the site is read alike on terminals that meet. -/
theorem parallel_readStream (hsound : site.Sound) {path : Path} {bytes : ByteArray}
    (hbytes : ∀ tree, site.Reaches tree → tree.bytesAt site.folder.parts path = .ok bytes) :
    Parallel (site.Meets c) ((site.workplace s verbose).readStream path) := by
  intro t t' h
  rw [run_readStream s verbose h.left.folder (hbytes _ h.left.reaches),
    run_readStream s verbose h.right.folder (hbytes _ h.right.reaches)]
  exact ⟨rfl, h.log hsound _⟩

/-! ## Carrying out

Each command is a row of the steps above, and runs in parallel on terminals that meet because they
do. -/

/-- A search tells the same on terminals that meet. -/
theorem parallel_search (hsound : site.Sound) (hs : s.surroundings = site.surroundings)
    (a : Catalog.Ask) : Parallel (site.Meets c) ((site.workplace s verbose).search a) := by
  refine (parallel_withCatalog hsound hs (fun _ => Catalog.parallel_search a)
    (Catalog.still_search a)).bind fun found => ?_
  refine (Parallel.forIn fun summary => ?_).bind fun _ => Parallel.pure _
  exact (parallel_print _).bind fun _ => Parallel.pure _

/-- So does a look-up of a full name. -/
theorem parallel_searchFullName (hsound : site.Sound) (hs : s.surroundings = site.surroundings)
    (fullName : String) :
    Parallel (site.Meets c) ((site.workplace s verbose).searchFullName fullName) := by
  refine (parallel_withCatalog hsound hs (fun _ => Catalog.parallel_search _)
    (Catalog.still_search _)).bind fun found => ?_
  rcases found with _ | ⟨s, rest⟩
  · exact Parallel.throw _
  · exact parallel_print _

/-- So does the folder of the index. -/
theorem parallel_indexFolder (hsound : site.Sound) (hs : s.surroundings = site.surroundings) :
    Parallel (site.Meets c) (site.workplace s verbose).indexFolder := by
  intro t t' h
  rw [run_indexFolder hsound hs, run_indexFolder hsound hs]
  exact ⟨rfl, h⟩

/-- So does the count. -/
theorem parallel_stats (hsound : site.Sound) (hs : s.surroundings = site.surroundings) :
    Parallel (site.Meets c) (site.workplace s verbose).stats := by
  refine (parallel_withCatalog hsound hs
    (fun _ => Catalog.parallel_onIndex (Desk.overlooked_alike _).docCount)
    Catalog.still_docCount).bind fun count => ?_
  exact (parallel_indexFolder hsound hs).bind fun _ => parallel_print _

/-- So does showing an element of a stream that is the same in all trees of the site. -/
theorem parallel_showElement (hsound : site.Sound) (hs : s.surroundings = site.surroundings)
    {path : Path} {bytes : ByteArray}
    (hbytes : ∀ tree, site.Reaches tree → tree.bytesAt site.folder.parts path = .ok bytes)
    (id : String) : Parallel (site.Meets c) ((site.workplace s verbose).showElement path id) := by
  refine (parallel_readStream hsound hbytes).bind fun r => ?_
  refine (parallel_indexFolder hsound hs).discard.bind fun _ => ?_
  dsimp only
  split
  · exact parallel_print _
  · exact Parallel.throw _

end CodeCatalog.CommandLine
