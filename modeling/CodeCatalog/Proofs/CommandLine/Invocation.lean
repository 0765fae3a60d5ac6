/-
Invocations one after the other.

Every invocation starts with empty streams on the shelf that the one before it left. An invocation fits
a site if it is one of a command on the root of the site, in the surroundings of the site, and if what
a stream is read from is not written by invocations themselves (`Invocation.Fits`).

One invocation on two shelves that are ready with the same collection ends the same, prints the same
and leaves shelves that are ready with the same collection again; unless it is a build, the collection
is the one from before (`run_meets`). By induction, so do any invocations one after the other: what they
tell depends on the collection alone (`told_eq`), and without a build the collection stays
(`ready_left`).
-/
import CodeCatalog.Proofs.CommandLine.Commands
import CodeCatalog.Proofs.CommandLine.Words
import CodeCatalog.Proofs.Settings.Outcome

set_option autoImplicit false

namespace CodeCatalog

namespace CommandLine

open Act Log Search

/-! ## Invocations

An invocation is told by its words: those before the command, its name, and those behind it. It fits
a site if it is one on its root, with its variables, and its words do not lead to what others write.
-/

/-- An invocation: what is found around it, what is written before the command, the name of the command
and the words behind it. -/
structure Invocation where
  setting : Setting
  front : Front := {}
  name : String
  words : List String := []

namespace Invocation

def line (i : Invocation) : List String :=
  i.front.words ++ i.name :: i.words

/-- Carry the invocation out: how it ends, unless its command is done, and what it leaves. -/
def run (i : Invocation) (shelf : Shelf) : Option Ending × Terminal :=
  CommandLine.run i.setting i.line { shelf := shelf }

end Invocation

/-- What an invocation tells: how it ends, and the lines of the two streams. -/
structure Told where
  ending : Option Ending
  stdout : List String
  stderr : List String

/-- What invocations tell one after the other. -/
def told : List Invocation → Shelf → List Told
  | [], _ => []
  | i :: rest, shelf =>
    ⟨(i.run shelf).1, (i.run shelf).2.stdout, (i.run shelf).2.stderr⟩ ::
      told rest (i.run shelf).2.shelf

/-- The shelf that invocations leave one after the other. -/
def left (is : List Invocation) (shelf : Shelf) : Shelf :=
  is.foldl (fun shelf i => (i.run shelf).2.shelf) shelf

/-- The word names the same, whatever invocations make and write. -/
def Site.Spares (site : Site) (word : String) : Prop :=
  ∀ tree, site.Reaches tree →
    tree.at? site.folder.parts (.ofText word) = site.files.at? site.folder.parts (.ofText word)

/-- **An invocation that fits a site.** It is one of a command on the root of the site, and the words
of a command that reads a stream name the same whatever invocations make and write. -/
structure Invocation.Fits (i : Invocation) (site : Site) : Prop where
  surroundings : i.setting.surroundings = site.surroundings
  front : i.front.InTree site.files site.folder.parts
  root : Path.resolve site.folder i.front.root = site.root
  name : i.name ∈ commands.map (·.1)
  spares : i.name = "build" ∨ i.name = "show" → ∀ word ∈ i.words, site.Spares word

/-- **An invocation starts** from a shelf with what the site says: the settings of its root load, and
the log files are created, which leaves a tree. Nothing is asked of the index. -/
structure Invocation.Starts (i : Invocation) (site : Site) (shelf : Shelf) (tree : Tree Artifact) :
    Prop where
  surroundings : i.setting.surroundings = site.surroundings
  folder : shelf.folder = site.folder
  front : i.front.InTree shelf.files site.folder.parts
  root : Path.resolve site.folder i.front.root = site.root
  settings : Settings.load shelf.files site.folder.parts site.surroundings site.root [] =
    .ok site.settings
  logs : createFiles site.folder.parts site.sinks shelf.files = (tree, none)

variable {β : Type} {site : Site} {c : Collection} {shelf shelf' : Shelf} {i : Invocation}
  {t t' : Terminal}
  {tree : Tree Artifact} {s : Setting} {verbose : Bool} {g : Grammar} {words : List String}

/-! ## Reading words

Words are read against the files as they are. Reading never changes anything, so a command that
fails here has left no trace. -/

/-- What a command line is read as. -/
def readResult (g : Grammar) (line : List String) (tree : Tree Artifact) (folder : Place) :
    Except Ending (Grammar.Values × List String) :=
  if g.hasCommands && line.isEmpty then .error (.help false)
  else (g.read tree folder line).mapError fun
    | .usage e => .usage e
    | .help => .help true
    | .version => .version

/-- Words are read on the files as they are, and reading changes nothing. -/
theorem run_read (g : Grammar) (line : List String) (t : Terminal) : (Run.read g line).run.run t =
    (readResult g line t.shelf.files t.shelf.folder.parts, t) := by
  have hfiles : Run.files.run.run t = (.ok t.shelf.files, t) := rfl
  have hfolder : Run.folder.run.run t = (.ok t.shelf.folder, t) := rfl
  rw [Run.read, readResult]
  -- an empty line is answered before the files are looked at
  split
  · rfl
  · show (Run.files >>= _).run.run t = _
    rw [run_bind_of_ok hfiles, run_bind_of_ok hfolder]
    rcases g.read t.shelf.files t.shelf.folder.parts line with (e | _ | _) | r
    · rfl
    · rfl
    · rfl
    · rfl

/-! ## Setting up

Before a command is carried out the settings are loaded and the log files created. From there on it
runs on a shelf that is set up, and what is left to do is named `finish`. -/

/-- The words before a command mean the same in each tree that the site reaches. -/
theorem Site.Reaches.inTree {f : Front} (h : site.Reaches tree)
    (hfront : f.InTree site.files site.folder.parts) : f.InTree tree site.folder.parts := by
  intro root hroot
  have hentry := hfront root hroot
  rw [Grammar.entryAt?] at hentry ⊢
  split_ifs at hentry ⊢
  exact Tree.at?_folder_grown h hentry

/-- Logging is set up once the log files are created. -/
theorem run_setUpLogging {settings : LogSettings}
    (hcreate : createFiles t.shelf.folder.parts
      (Logger.ofSettings settings (some s.request)).sinks t.shelf.files = (tree, none)) :
    (setUpLogging s settings).run.run t = (.ok (Logger.ofSettings settings (some s.request)),
      { t with shelf := { t.shelf with files := tree } }) := by
  have hfiles : Run.files.run.run t = (.ok t.shelf.files, t) := rfl
  have hfolder : Run.folder.run.run t = (.ok t.shelf.folder, t) := rfl
  have hsetUp : Logger.setUp t.shelf.folder.parts (some s.request) settings t.shelf.files =
      (.ok (Logger.ofSettings settings (some s.request)), tree) := by
    rw [Logger.setUp, hcreate]
  rw [setUpLogging, run_bind_of_ok hfolder, run_bind_of_ok hfiles, hsetUp]
  rfl

/-- An invocation that fits a site starts from every shelf that is ready. -/
theorem Invocation.Fits.starts (hsound : site.Sound) (hfits : i.Fits site) (h : site.Ready c shelf)
    (hcreate : createFiles site.folder.parts site.sinks shelf.files = (tree, none)) :
    i.Starts site shelf tree where
  surroundings := hfits.surroundings
  folder := h.folder
  front := h.reaches.inTree hfits.front
  root := hfits.root
  settings := hsound.settings _ h.reaches
  logs := hcreate

/-- What a command works with is what the site says, once the log files are created. -/
theorem run_setUp (h : i.Starts site shelf tree) :
    (setUp i.setting i.front.values).run.run { shelf := shelf } =
      (.ok (site.workplace i.setting i.front.verbose),
        { shelf := { shelf with files := tree } }) := by
  have hplace : Run.folder.run.run { shelf := shelf } = (.ok shelf.folder, { shelf := shelf }) := rfl
  have hroot : Path.resolve shelf.folder i.front.root = site.root := by
    rw [h.folder, h.root]
  have hload : (loadSettings i.setting site.root).run.run { shelf := shelf } =
      (.ok site.settings, { shelf := shelf }) := by
    have hsettings := h.settings
    rw [← h.folder, ← h.surroundings] at hsettings
    rw [Settings.run_loadSettings, hsettings]
    rfl
  have hlogging : (setUpLogging i.setting
      (if i.front.verbose then { site.settings.logging with level := .debug }
        else site.settings.logging)).run.run { shelf := shelf } =
          (.ok (site.workplace i.setting i.front.verbose).logger,
            { shelf := { shelf with files := tree } }) := by
    -- being verbose changes a level, and no file
    refine run_setUpLogging (t := { shelf := shelf }) ?_
    rw [← h.logs, h.folder]
    exact createFiles_congr (site.destinations_workplace i.setting i.front.verbose) _
  rw [setUp, run_bind_of_ok hplace, path_root, hroot, run_bind_of_ok hload, has_verbose,
    run_bind_of_ok hlogging]
  rfl

/-- What is left of an invocation once it is set up. -/
def Workplace.finish (w : Workplace) (command : Option Command) (words : List String) :
    Run Unit := do
  let (c, words) ← findCommand command words
  let (values, _) ← Run.read c.grammar words
  w.carryOut values c

/-- A command that was named is carried out with the values of its words. -/
theorem Workplace.finish_some (w : Workplace) (command : Command) (words : List String) :
    w.finish (some command) words = (do
      let (values, _) ← Run.read command.grammar words
      w.carryOut values command) := rfl

/-- No command has commands of its own. -/
theorem hasCommands_command (command : Command) : command.grammar.hasCommands = false := by
  cases command <;> rfl

/-- A command is carried out with the values that its words give. -/
theorem Workplace.finish_read (w : Workplace) {command : Command} {vs : Grammar.Values}
    {rest : List String}
    (hread : command.grammar.read t.shelf.files t.shelf.folder.parts words = .ok (vs, rest)) :
    (w.finish (some command) words).run.run t = (w.carryOut vs command).run.run t := by
  have hrun : (Run.read command.grammar words).run.run t = (.ok (vs, rest), t) := by
    rw [run_read, readResult, hasCommands_command, hread]
    rfl
  rw [Workplace.finish_some, run_bind_of_ok hrun]

theorem isOptionWord_command : ∀ p ∈ commands, Grammar.isOptionWord p.1 = false := by
  decide +kernel

theorem lookup_command : ∀ p ∈ commands, commands.lookup p.1 = some p.2 := by
  decide

/-- **An invocation that starts** is set up, and then its command is carried out. -/
theorem run_invoke (h : i.Starts site shelf tree) {command : Option Command}
    (hmem : (i.name, command) ∈ commands) :
    (invoke i.setting i.line).run.run { shelf := shelf } =
      ((site.workplace i.setting i.front.verbose).finish command i.words).run.run
        { shelf := { shelf with files := tree } } := by
  have hread : (Run.read mainGrammar i.line).run.run { shelf := shelf } =
      (.ok (i.front.values, i.name :: i.words), { shelf := shelf }) := by
    have hempty : i.line.isEmpty = false := by
      simp [Invocation.line]
    rw [run_read, readResult, hempty, h.folder, Invocation.line,
      read_front h.front (isOptionWord_command _ hmem)]
    rfl
  -- the word that names the command is no option, so it is looked up as it stands
  have hlookUp : (Run.lookUp mainGrammar commands (i.name :: i.words)).run.run { shelf := shelf } =
      (.ok (command, i.words), { shelf := shelf }) := by
    rw [Run.lookUp, lookup_command _ hmem]
    rfl
  rw [invoke, run_bind_of_ok hread, run_bind_of_ok hlookUp, run_bind_of_ok (run_setUp h)]
  rfl

/-- How an invocation is concluded. -/
def concluded : Except Ending Unit × Terminal → Option Ending × Terminal
  | (.ok (), t) => (none, t)
  | (.error e, t) => (some e, e.addTo t)

/-- A run is an invocation and what its ending shows. -/
theorem run_eq (s : Setting) (line : List String) (t : Terminal) :
    CommandLine.run s line t = concluded ((invoke s line).run.run t) := by
  rw [CommandLine.run]
  rcases (invoke s line).run.run t with ⟨_ | _, t'⟩
  · rfl
  · rfl

/-- A run of an invocation that starts carries its command out. -/
theorem run_starts (h : i.Starts site shelf tree) {command : Option Command}
    (hmem : (i.name, command) ∈ commands) :
    i.run shelf = concluded (((site.workplace i.setting i.front.verbose).finish command
      i.words).run.run { shelf := { shelf with files := tree } }) := by
  rw [Invocation.run, run_eq, run_invoke h hmem]

/-- **A run of an invocation that fits** carries its command out on a shelf that is set up. -/
theorem run_fits (hsound : site.Sound) (hfits : i.Fits site) {command : Option Command}
    (hmem : (i.name, command) ∈ commands) (h : site.Ready c shelf) :
    ∃ tree, site.SetUp c { shelf with files := tree } ∧
      i.run shelf = concluded (((site.workplace i.setting i.front.verbose).finish command
        i.words).run.run { shelf := { shelf with files := tree } }) := by
  obtain ⟨tree, hcreate, hsetUp⟩ := h.setUp
  exact ⟨tree, hsetUp, run_starts (hfits.starts hsound h hcreate) hmem⟩

/-! ## Commands on terminals that meet

The words of a command mean the same on terminals that meet, since they lead to files that are
spared, or to none. So each command can be followed on both at once, up to its end. -/

/-- Words that are read alike in all trees of the site are read alike on terminals that meet. -/
theorem parallel_read (h : ∀ tree, site.Reaches tree → g.read tree site.folder.parts words =
      g.read site.files site.folder.parts words) :
    Parallel (site.Meets c) (Run.read g words) := by
  intro t t' hmeets
  rw [run_read, run_read, readResult, readResult, hmeets.left.folder, hmeets.right.folder,
    h _ hmeets.left.reaches, h _ hmeets.right.reaches]
  exact ⟨rfl, hmeets⟩

/-- No option of a command is a path. -/
theorem options_plain (command : Command) :
    ∀ o ∈ command.grammar.allOptions, ∀ form ∈ o.form, ¬ form.IsPath := by
  cases command <;> decide

/-- What reads no stream looks at no file. -/
theorem arguments_plain {command : Command} (hbuild : command ≠ .build) (hshow : command ≠ .show) :
    ∀ a ∈ command.grammar.arguments, ¬ a.form.IsPath := by
  cases command with
  | build => exact absurd rfl hbuild
  | «show» => exact absurd rfl hshow
  | stats => decide
  | byName => decide
  | byFullName => decide
  | byKind => decide
  | byParent => decide
  | advanced => decide

/-- The words of a command that takes no file are read alike everywhere. -/
theorem parallel_read_plain {command : Command} (hbuild : command ≠ .build)
    (hshow : command ≠ .show) : Parallel (site.Meets c) (Run.read command.grammar words) :=
  parallel_read fun _ _ => Grammar.read_congr (options_plain command) fun a ha hpath =>
    absurd hpath (arguments_plain hbuild hshow a ha)

theorem parallel_read_search : Parallel (site.Meets c) (Run.read searchGrammar words) :=
  parallel_read fun _ _ => Grammar.read_congr (by decide) nofun

/-- A name is looked up alike where its words are read alike. -/
theorem parallel_lookUp {table : List (String × β)}
    (hread : ∀ words, Parallel (site.Meets c) (Run.read g words)) :
    Parallel (site.Meets c) (Run.lookUp g table words) := by
  rcases words with _ | ⟨name, rest⟩
  · exact Parallel.throw _
  rw [Run.lookUp]
  split
  · exact Parallel.pure _
  · split
    · exact (hread _).discard.bind fun _ => Parallel.throw _
    · exact Parallel.throw _

/-- What is looked up in a table is in the table. -/
theorem mem_of_lookUp {table : List (String × β)} {r : β × List String}
    (h : (Run.lookUp g table words).run.run t = (.ok r, t')) : r.1 ∈ table.map (·.2) := by
  rcases words with _ | ⟨name, rest⟩
  · exact absurd (Prod.mk.inj h).1 nofun
  rw [Run.lookUp] at h
  split at h
  · next b hb =>
    obtain ⟨before, behind, rfl, -⟩ := List.lookup_eq_some_iff.mp hb
    obtain rfl := Except.ok.inj (Prod.mk.inj h).1
    simp
  · split at h
    · rw [run_bind, run_discard, run_read] at h
      -- whether the name is read as an option or not, nothing is found
      generalize readResult g (name :: rest) t.shelf.files t.shelf.folder.parts = r' at h
      rcases r' with e | p
      · exact absurd (congrArg Prod.fst h) (by rintro ⟨⟩)
      · exact absurd (congrArg Prod.fst h) (by rintro ⟨⟩)
    · exact absurd (Prod.mk.inj h).1 nofun

/-- The name behind a search is that of a search. -/
theorem mem_of_findCommand {r : Command × List String}
    (h : (findCommand none words).run.run t = (.ok r, t')) : r.1 ∈ searches.map (·.2) := by
  have hread := run_read searchGrammar words t
  rcases hr : readResult searchGrammar words t.shelf.files t.shelf.folder.parts with e | p
  · rw [hr] at hread
    rw [findCommand, run_bind_of_error hread] at h
    exact absurd (Prod.mk.inj h).1 nofun
  · rw [hr] at hread
    rw [findCommand, run_bind_of_ok hread] at h
    exact mem_of_lookUp h

/-- Words that lead to files which the site spares are read alike. -/
theorem parallel_read_spared {command : Command} (hspares : ∀ word ∈ words, site.Spares word) :
    Parallel (site.Meets c) (Run.read command.grammar words) := by
  refine parallel_read fun tree htree => ?_
  refine Grammar.read_congr (options_plain command) fun _ _ _ word hword => ?_
  rw [Grammar.entryAt?, Grammar.entryAt?, hspares word hword tree htree]

/-- The stream among the values of a command can be read, and holds the same whatever invocations
make and write. -/
def Site.Streams (site : Site) (vs : Grammar.Values) : Prop :=
  ∃ bytes, ∀ tree, site.Reaches tree →
    tree.bytesAt site.folder.parts ((vs.path? "ELEMENTS").getD default) = .ok bytes

/-- Such words lead to streams that are the same in all trees of the site. -/
theorem streams_of_read {command : Command} {vs : Grammar.Values} {rest : List String}
    (hcommand : command = .build ∨ command = .show) (hspares : ∀ word ∈ words, site.Spares word)
    (hreaches : site.Reaches tree)
    (hread : command.grammar.read tree site.folder.parts words = .ok (vs, rest)) :
    site.Streams vs := by
  obtain ⟨hoptions, more, harguments⟩ : command.grammar.options = [] ∧
      ∃ more, command.grammar.arguments = elementsArgument :: more := by
    rcases hcommand with rfl | rfl
    · exact ⟨rfl, _, rfl⟩
    · exact ⟨rfl, _, rfl⟩
  obtain ⟨word, hword, v, hvalue, hlookup⟩ := Grammar.argument_of_read hoptions harguments hread
  obtain ⟨rfl, x, hx, hat⟩ := Grammar.of_existingFile hvalue
  have hpath : vs.path? "ELEMENTS" = some (.ofText word) := by
    rw [Grammar.Values.path?, show vs.lookup "ELEMENTS" = _ from hlookup]
  rw [Site.Streams, hpath, Option.getD_some]
  -- in every tree the word names what it names in this one
  refine ⟨x.bytes, fun tree' htree' => Tree.bytesAt_of_at? ?_ hx⟩
  rw [hspares word hword tree' htree', ← hspares word hword tree hreaches]
  exact hat

/-- The same on a terminal. -/
theorem streams_of_run {command : Command} {r : Grammar.Values × List String}
    (hcommand : command = .build ∨ command = .show) (hspares : ∀ word ∈ words, site.Spares word)
    (h : site.SetUp c t.shelf)
    (hread : (Run.read command.grammar words).run.run t = (.ok r, t')) : site.Streams r.1 := by
  rw [run_read, readResult, h.folder] at hread
  rw [hasCommands_command, Bool.false_and, if_neg Bool.false_ne_true] at hread
  rcases hvalues : command.grammar.read t.shelf.files site.folder.parts words with e | ⟨vs, rest⟩ <;>
    rw [hvalues] at hread
  · exact absurd (Prod.mk.inj hread).1 nofun
  · obtain rfl := Except.ok.inj (Prod.mk.inj hread).1
    exact streams_of_read hcommand hspares h.reaches hvalues

section

variable (hsound : site.Sound) (hs : s.surroundings = site.surroundings) {vs : Grammar.Values}

include hsound hs

/-- A command that does not build leaves terminals that meet with their collection. -/
theorem parallel_carryOut {command : Command} (hbuild : command ≠ .build)
    (hstreams : command = .show → site.Streams vs) :
    Parallel (site.Meets c) ((site.workplace s verbose).carryOut vs command) := by
  cases command with
  | build => exact absurd rfl hbuild
  | «show» =>
    obtain ⟨bytes, hbytes⟩ := hstreams rfl
    exact parallel_showElement hsound hs hbytes _
  | stats => exact parallel_stats hsound hs
  | byName => exact parallel_search hsound hs _
  | byFullName => exact parallel_searchFullName hsound hs _
  | byKind => exact parallel_search hsound hs _
  | byParent => exact parallel_search hsound hs _
  | advanced => exact parallel_search hsound hs _

/-- A build leaves terminals that meet with the same collection. -/
theorem parallel_carryOut_build (hstreams : site.Streams vs) :
    Parallel (fun t t' => ∃ c, site.Meets c t t')
      ((site.workplace s verbose).carryOut vs .build) := by
  obtain ⟨bytes, hbytes⟩ := hstreams
  refine Parallel.bind (.union fun c => parallel_readStream hsound hbytes) fun r => ?_
  refine (parallel_build hsound hs r.1).bind fun count => .union fun c => ?_
  exact (parallel_indexFolder hsound hs).bind fun _ => parallel_print _

/-- A search tells the same on terminals that meet, whichever of the searches it is. -/
theorem parallel_finish_search (words : List String) :
    Parallel (site.Meets c) ((site.workplace s verbose).finish none words) := by
  have hfind : Parallel (site.Meets c) (findCommand none words) :=
    parallel_read_search.bind fun r => parallel_lookUp fun words => parallel_read_search
  refine hfind.bind_of (fun _ _ _ _ _ h => mem_of_findCommand h) fun r hr => ?_
  have hplain : ∀ command ∈ searches.map (·.2), command ≠ .build ∧ command ≠ .show := by
    decide
  obtain ⟨hbuild, hshow⟩ := hplain r.1 hr
  refine (parallel_read_plain hbuild hshow).bind fun vs => ?_
  exact parallel_carryOut hsound hs hbuild fun h => absurd h hshow

/-- So does a count. -/
theorem parallel_finish_stats (words : List String) :
    Parallel (site.Meets c) ((site.workplace s verbose).finish (some .stats) words) := by
  rw [Workplace.finish_some]
  refine (parallel_read_plain (by decide) (by decide)).bind fun vs => ?_
  exact parallel_carryOut hsound hs (by decide) fun h => absurd h (by decide)

/-- So does a show of a stream that the site spares. -/
theorem parallel_finish_show (hspares : ∀ word ∈ words, site.Spares word) :
    Parallel (site.Meets c) ((site.workplace s verbose).finish (some .show) words) := by
  rw [Workplace.finish_some]
  refine (parallel_read_spared hspares).bind_of (V := fun r => site.Streams r.1) ?_ fun r hr => ?_
  · intro t t' r _ h hread
    exact streams_of_run (.inr rfl) hspares h.left hread
  · exact parallel_carryOut hsound hs (by decide) fun _ => hr

/-- After a build from a stream that the site spares terminals meet again, on what it built or on
what was there. -/
theorem parallel_finish_build (hspares : ∀ word ∈ words, site.Spares word) :
    Parallel (fun t t' => ∃ c, site.Meets c t t')
      ((site.workplace s verbose).finish (some .build) words) := by
  rw [Workplace.finish_some]
  refine (Parallel.union fun c => parallel_read_spared hspares).bind_of
    (V := fun r => site.Streams r.1) ?_ fun r hr => ?_
  · rintro t t' r _ ⟨c, h⟩ hread
    exact streams_of_run (.inl rfl) hspares h.left hread
  · exact parallel_carryOut_build hsound hs hr

end

/-! ## One invocation on two shelves

Together: an invocation that fits the site tells the same on two shelves that are ready with the
same collection, and leaves them ready with the same collection again. -/

/-- What an ending shows is shown on both terminals. -/
theorem Site.Meets.addTo (h : site.Meets c t t') (e : Ending) :
    site.Meets c (e.addTo t) (e.addTo t') := by
  have hstdout : ∀ lines : List String, site.Meets c { t with stdout := t.stdout ++ lines }
      { t' with stdout := t'.stdout ++ lines } := fun lines =>
    ⟨congrArg (· ++ lines) h.stdout, h.stderr, h.shelf, h.left, h.right⟩
  have hstderr : ∀ lines : List String, site.Meets c { t with stderr := t.stderr ++ lines }
      { t' with stderr := t'.stderr ++ lines } := fun lines =>
    ⟨h.stdout, congrArg (· ++ lines) h.stderr, h.shelf, h.left, h.right⟩
  cases e with
  | help asked =>
    cases asked with
    | false => exact hstderr _
    | true => exact hstdout _
  | version => exact hstdout _
  | usage e => exact hstderr _
  | refused e => exact hstderr _
  | notFound message => exact hstderr _
  | failed e => exact h

/-- Invocations that end alike are concluded alike. -/
theorem concluded_meets {r r' : Except Ending Unit × Terminal} (hvalue : r.1 = r'.1)
    (h : site.Meets c r.2 r'.2) : (concluded r).1 = (concluded r').1 ∧
      site.Meets c (concluded r).2 (concluded r').2 := by
  obtain ⟨e | _, t⟩ := r
  · obtain ⟨_, t'⟩ := r'
    obtain rfl := hvalue
    exact ⟨rfl, h.addTo e⟩
  · obtain ⟨_, t'⟩ := r'
    obtain rfl := hvalue
    exact ⟨rfl, h⟩

/-- **One invocation.** On two shelves that are ready with the same collection it ends and prints the
same, and leaves shelves that are ready with the same collection, which is a new one after a build
alone. -/
theorem run_meets (hsound : site.Sound) (hfits : i.Fits site) (h : site.Ready c shelf)
    (h' : site.Ready c shelf') (hsame : ∃ files, shelf' = { shelf with files := files }) :
    (i.run shelf).1 = (i.run shelf').1 ∧ ∃ c', (i.name ≠ "build" → c' = c) ∧
      site.Meets c' (i.run shelf).2 (i.run shelf').2 := by
  obtain ⟨⟨name, command⟩, hmem, hcalled⟩ := List.mem_map.mp hfits.name
  have hcalled : name = i.name := hcalled
  rw [hcalled] at hmem
  obtain ⟨tree, hsetUp, hrun⟩ := run_fits hsound hfits hmem h
  obtain ⟨tree', hsetUp', hrun'⟩ := run_fits hsound hfits hmem h'
  have hmeets : site.Meets c { shelf := { shelf with files := tree } }
      { shelf := { shelf' with files := tree' } } := by
    obtain ⟨files, rfl⟩ := hsame
    exact ⟨rfl, rfl, ⟨tree', rfl⟩, hsetUp, hsetUp'⟩
  have hs := hfits.surroundings
  rw [hrun, hrun']
  -- what leaves the collection alone leaves the terminals together
  have hkept : Parallel (site.Meets c)
      ((site.workplace i.setting i.front.verbose).finish command i.words) → _ := fun hparallel =>
    concluded_meets (hparallel _ _ hmeets).1 (hparallel _ _ hmeets).2
  simp only [commands, List.mem_cons, Prod.mk.injEq, List.not_mem_nil, or_false] at hmem
  rcases hmem with ⟨hname, rfl⟩ | ⟨hname, rfl⟩ | ⟨hname, rfl⟩ | ⟨hname, rfl⟩
  · obtain ⟨hvalue, c', hc'⟩ := parallel_finish_build hsound hs (hfits.spares (.inl hname)) _ _
      ⟨c, hmeets⟩
    obtain ⟨hend, hleft⟩ := concluded_meets hvalue hc'
    exact ⟨hend, c', fun hne => absurd hname hne, hleft⟩
  · obtain ⟨hend, hleft⟩ := hkept (parallel_finish_search hsound hs _)
    exact ⟨hend, c, fun _ => rfl, hleft⟩
  · obtain ⟨hend, hleft⟩ := hkept (parallel_finish_show hsound hs (hfits.spares (.inr hname)))
    exact ⟨hend, c, fun _ => rfl, hleft⟩
  · obtain ⟨hend, hleft⟩ := hkept (parallel_finish_stats hsound hs _)
    exact ⟨hend, c, fun _ => rfl, hleft⟩

/-! ## Invocations one after the other

By induction a row of invocations tells the same on such shelves, and one without builds leaves a
ready shelf ready. -/

/-- **What invocations tell** depends on the collection alone that a shelf is ready with. -/
theorem told_eq (hsound : site.Sound) {is : List Invocation} (hfits : ∀ i ∈ is, i.Fits site)
    (h : site.Ready c shelf) (h' : site.Ready c shelf')
    (hsame : ∃ files, shelf' = { shelf with files := files }) : told is shelf' = told is shelf := by
  induction is generalizing c shelf shelf' with
  | nil => rfl
  | cons i rest ih =>
    rw [List.forall_mem_cons] at hfits
    obtain ⟨hend, c', -, hmeets⟩ := run_meets hsound hfits.1 h h' hsame
    rw [told, told, ← hend, hmeets.stdout, hmeets.stderr,
      ih hfits.2 hmeets.left.ready hmeets.right.ready hmeets.shelf]

/-- **Without a build**, invocations leave the collection that they found. -/
theorem ready_left (hsound : site.Sound) {is : List Invocation}
    (hfits : ∀ i ∈ is, i.Fits site ∧ i.name ≠ "build") (h : site.Ready c shelf) :
    site.Ready c (left is shelf) := by
  induction is generalizing shelf with
  | nil => exact h
  | cons i rest ih =>
    rw [List.forall_mem_cons] at hfits
    obtain ⟨-, c', hkept, hmeets⟩ := run_meets hsound hfits.1.1 h h ⟨shelf.files, rfl⟩
    obtain rfl := hkept hfits.1.2
    exact ih hfits.2 hmeets.left.ready

end CommandLine

end CodeCatalog
