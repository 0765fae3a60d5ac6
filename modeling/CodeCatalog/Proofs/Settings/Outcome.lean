/-
How loading the settings ends.

Callers are told of two ends: valid settings, or an error of the catalogue about a file that cannot
be parsed or a value that is wrong. `load_documented_iff` says exactly when it is one of the two.
Everything else is a fault that comes through: from the values of a file, from files that hold
themselves, from the variables, from keys that are no texts, from the two places where a check is
ended by a fault, and from a number with too many digits in the value that would be reported.
-/
import CodeCatalog.CommandLine.Program
import CodeCatalog.Proofs.Settings.Precedence
import CodeCatalog.Proofs.Settings.Report
import CodeCatalog.Proofs.Settings.Verdict

set_option autoImplicit false

namespace CodeCatalog.Settings

open Check (right right_inj Reports Faultless)
open Datum

/-- An end that callers are told of. -/
def Documented : Except LoadError CodeCatalog.Settings → Prop
  | .ok settings => settings.Valid
  | .error (.failure (.catalog e)) => e.code = .configParseError ∨ e.code = .configInvalidValue
  | .error _ => False

/-! ## Combined sources

The combined sources are checked once. They end in settings, in an error of the catalogue that names
the first problem, or in a fault; each of the ends has its condition. -/

variable {entries given : Entries} {homes : Path.Homes}

/-- Entries that can be checked, and reported if they are wrong: their keys are texts, the home
folders of their destinations are known, the memory of each writing thread is a finite number, and
what is reported can be written out. -/
structure Checkable (homes : Path.Homes) (entries : Entries) : Prop where
  keys : entries.all (isTextKey ·.1) = true
  destinations : ∀ s, IsDestinationIn entries s → HasHome homes s
  memory : ∀ i, IsIndexIn homes entries i → HasQuotient i
  words : ∀ p ps, checkExactly homes entries = .ok (.error (p :: ps)) →
    p.found.canDescribe = true

theorem hereditary_true : Hereditary fun _ => True where
  entry := fun _ _ _ _ => trivial
  item := fun _ _ _ _ => trivial

/-- A refusal names a problem. -/
theorem checkExactly_ne_nil : checkExactly homes entries ≠ .ok (.error []) := fun h =>
  (reports_checkExactly (P := fun _ => True) hereditary_true (fun _ _ => trivial) [] h).1 rfl

/-- A problem is told as an error of the catalogue just if the value that it quotes can be written.
-/
theorem documented_problemFailure (p : Problem) :
    Documented (.error (.failure (problemFailure p))) ↔ p.found.canDescribe = true := by
  rw [problemFailure]
  split
  · rename_i hwords
    exact iff_of_true (.inr rfl) hwords
  · rename_i hwords
    exact iff_of_false id hwords

/-- A key that is no text ends the settings before any check. -/
theorem ofSources_of_key (h : entries.all (isTextKey ·.1) = false) :
    ofSources homes entries = .error (.failure (.fault .keyNotText)) := by
  rw [ofSources, h]
  rfl

/-- A fault of the check comes through. -/
theorem ofSources_of_fault {f : Fault} (hkeys : entries.all (isTextKey ·.1) = true)
    (h : checkExactly homes entries = .error f) :
    ofSources homes entries = .error (.failure (.fault f)) := by
  rw [ofSources, hkeys, h]
  rfl

/-- Of several problems the first one is told. -/
theorem ofSources_of_problem {p : Problem} {ps : List Problem}
    (hkeys : entries.all (isTextKey ·.1) = true)
    (h : checkExactly homes entries = .ok (.error (p :: ps))) :
    ofSources homes entries = .error (.failure (problemFailure p)) := by
  rw [ofSources, hkeys, h]
  rfl

/-- Sources that pass the check give its settings. -/
theorem ofSources_of_right {settings : CodeCatalog.Settings}
    (hkeys : entries.all (isTextKey ·.1) = true) (h : checkExactly homes entries = right settings) :
    ofSources homes entries = .ok settings := by
  obtain ⟨hsections, hnothing⟩ := checkExactly_right.mp h
  exact ofSources_eq_ok_iff.mpr ⟨hasOnlySections_iff_right.mpr ⟨hkeys, hnothing⟩, hsections⟩

/-- What is checkable and can be checked without a fault is the same, but for the report. -/
theorem checkable_iff (hkeys : entries.all (isTextKey ·.1) = true) : Checkable homes entries ↔
    Faultless (checkExactly homes entries) ∧
      ∀ p ps, checkExactly homes entries = .ok (.error (p :: ps)) → p.found.canDescribe = true := by
  rw [faultless_checkExactly]
  exact ⟨fun h => ⟨⟨h.destinations, h.memory⟩, h.words⟩,
    fun ⟨⟨hdestinations, hmemory⟩, hwords⟩ => ⟨hkeys, hdestinations, hmemory, hwords⟩⟩

/-- **Combined sources end as documented** exactly if they are checkable. -/
theorem documented_ofSources : Documented (ofSources homes entries) ↔ Checkable homes entries := by
  cases hkeys : entries.all (isTextKey ·.1) with
  | false =>
    rw [ofSources_of_key hkeys]
    exact iff_of_false id fun h => Bool.noConfusion (hkeys.symm.trans h.keys)
  | true =>
    rw [checkable_iff hkeys]
    -- a fault is undocumented; a refusal is documented if it can be told, and that depends on its
    -- first problem only
    rcases hcheck : checkExactly homes entries with f | ps | settings
    · rw [ofSources_of_fault hkeys hcheck]
      exact iff_of_false id fun h => Check.not_faultless_error f h.1
    · rcases ps with _ | ⟨p, ps⟩
      · exact absurd hcheck checkExactly_ne_nil
      · rw [ofSources_of_problem hkeys hcheck, documented_problemFailure]
        refine ⟨fun h => ⟨⟨_, rfl⟩, fun p' ps' heq => ?_⟩, fun h => h.2 p ps rfl⟩
        obtain ⟨rfl, -⟩ := List.cons.inj (Except.error.inj (Except.ok.inj heq))
        exact h
    · rw [ofSources_of_right hkeys hcheck]
      refine iff_of_true (valid_of_right (checkExactly_right.mp hcheck).1)
        ⟨⟨_, rfl⟩, fun p ps heq => ?_⟩
      exact absurd (Except.ok.inj heq) nofun

/-- Otherwise a fault comes through. -/
theorem ofSources_ends : Documented (ofSources homes entries) ∨
    ∃ f, ofSources homes entries = .error (.failure (.fault f)) := by
  cases hkeys : entries.all (isTextKey ·.1) with
  | false => exact .inr ⟨_, ofSources_of_key hkeys⟩
  | true =>
    -- a refusal that cannot be told is a fault of the telling
    rcases hcheck : checkExactly homes entries with f | ps | settings
    · exact .inr ⟨f, ofSources_of_fault hkeys hcheck⟩
    · rcases ps with _ | ⟨p, ps⟩
      · exact absurd hcheck checkExactly_ne_nil
      · rw [ofSources_of_problem hkeys hcheck, problemFailure]
        split
        · exact .inl (.inr rfl)
        · exact .inr ⟨_, rfl⟩
    · rw [ofSources_of_right hkeys hcheck]
      exact .inl (valid_of_right (checkExactly_right.mp hcheck).1)

/-! ### Reports that can be written

A problem quotes the value that is wrong. If that has a whole number with too many digits in it, the
report itself fails, so what can be written matters here. -/

/-- The sources together have no number that none of them has. -/
theorem canDescribeEntries_combine {vars rootFile userFile : Entries}
    (hgiven : canDescribeEntries given = true) (hvars : canDescribeEntries vars = true)
    (hroot : canDescribeEntries rootFile = true) (huser : canDescribeEntries userFile = true) :
    canDescribeEntries (combine given vars rootFile userFile) = true := by
  have hfiles : canDescribeEntries (filesOf rootFile userFile) = true := by
    rw [filesOf]
    split
    · exact hroot
    · exact canDescribeEntries_mergeOver huser hroot
  exact canDescribeEntries_mergeOver hfiles (canDescribeEntries_mergeOver hvars hgiven)

/-- Where no source has a number with too many digits, whatever is wrong can be reported. -/
theorem canDescribe_of_sources {vars rootFile userFile : Entries}
    (hgiven : canDescribeEntries given = true) (hvars : canDescribeEntries vars = true)
    (hroot : canDescribeEntries rootFile = true) (huser : canDescribeEntries userFile = true)
    {p : Problem} {ps : List Problem}
    (h : checkExactly homes (combine given vars rootFile userFile) = .ok (.error (p :: ps))) :
    p.found.canDescribe = true := by
  have hentries := canDescribeEntries_combine hgiven hvars hroot huser
  have hreports : Reports (fun d => d.canDescribe = true)
      (checkExactly homes (combine given vars rootFile userFile)) :=
    reports_checkExactly hereditary_canDescribe fun e he =>
      (canDescribeEntries_iff.mp hentries e he).2
  exact (hreports (p :: ps) h).2 p List.mem_cons_self

/-! ## Settings files

A file is read before anything is checked. Failures to parse are told with the code for that, and
what is not told comes through as a fault. -/

variable {α : Type} {tree : Tree α} {folder : Place} {path : Path}

/-- A settings file that no fault keeps from being read: it is not there, or it is a text whose
values can all be formed. It may be malformed. -/
def Readable (tree : Tree α) (folder : Place) (path : Path) : Prop :=
  ∀ f, entriesAt tree folder path ≠ .error (.fault f)

/-- A settings file that is refused as a text is refused with one code. -/
theorem code_of_tableOf {text : List Char} {isCut : Bool} {e : CatalogError}
    (h : tableOf path text isCut = .error (.catalog e)) : e.code = .configParseError := by
  unfold tableOf at h
  generalize Yaml.read text isCut = outcome at h
  -- only a text that is no YAML and a document that is no table are failures of the catalogue
  rcases outcome with (reason | f | _) | d
  · rw [← Failure.catalog.inj (Except.error.inj h)]
    rfl
  · cases h
  · cases h
  · dsimp only at h
    split at h
    · cases h
    · split at h
      · cases h
      · rw [← Failure.catalog.inj (Except.error.inj h)]
        rfl

/-- The catalogue's own errors about a settings file say that it cannot be parsed. -/
theorem code_of_entriesAt {e : CatalogError}
    (h : entriesAt tree folder path = .error (.catalog e)) : e.code = .configParseError := by
  rw [entriesAt] at h
  split at h
  · cases h
  · cases h
  · cases h
  · split at h
    · exact code_of_tableOf h
    · exact code_of_tableOf h

/-- A file that is not taken as a table ends the loading as documented if it can be read. -/
theorem documented_of_file {e : Failure} (h : entriesAt tree folder path = .error e) :
    Documented (.error (.failure e)) ↔ Readable tree folder path := by
  rw [Readable, h]
  cases e with
  | catalog e => exact iff_of_true (.inl (code_of_entriesAt h)) nofun
  | fault f => exact iff_of_false id fun h => h f rfl

/-- Whether a fault has come up. -/
def isFault : Except Failure α → Bool
  | .error (.fault _) => true
  | _ => false

instance (tree : Tree α) (folder : Place) (path : Path) :
    Decidable (Readable tree folder path) :=
  decidable_of_iff (isFault (entriesAt tree folder path) = false) <| by
    rw [Readable]
    rcases entriesAt tree folder path with (e | f) | entries
    · exact iff_of_true rfl (by rintro _ ⟨⟩)
    · exact iff_of_false (by rintro ⟨⟩) fun h => h f rfl
    · exact iff_of_true rfl (by rintro _ ⟨⟩)

theorem readable_of_ok (h : entriesAt tree folder path = .ok entries) :
    Readable tree folder path := fun _ hf => absurd (h.symm.trans hf) nofun

/-! ## Loading

The files are read, the root's first, then the variables, and then everything is checked together.
Loading ends as documented just if none of these steps ends in a fault. -/

variable {s : Surroundings} {root : Path} {rootFile userFile : Entries}

/-- The file of the root is read first, so its failure is the end. -/
theorem load_of_rootFailure {e : Failure}
    (hroot : entriesAt tree folder (fileOf root) = .error e) :
    load tree folder s root given = .error (.failure e) := by
  rw [load, hroot]
  rfl

/-- The file of the user is read next, and its failure is the end if the first file was read. -/
theorem load_of_userFailure {e : Failure}
    (hroot : entriesAt tree folder (fileOf root) = .ok rootFile)
    (huser : entriesAt tree folder s.userFile = .error e) :
    load tree folder s root given = .error (.failure e) := by
  rw [load, hroot, huser]
  rfl

/-- With both files read, loading ends in a documented way just if laying them over each other comes
to an end, the variables can be read, and all together can be checked. -/
theorem documented_load_of_tables (hroot : entriesAt tree folder (fileOf root) = .ok rootFile)
    (huser : entriesAt tree folder s.userFile = .ok userFile) :
    Documented (load tree folder s root given) ↔
      Ends rootFile userFile ∧ ∃ vars, fromVariables s.vars = .ok vars ∧
        Checkable s.homes (combine (sectionsFirst given) vars rootFile userFile) := by
  rw [load_of_tables hroot huser, ends_iff]
  cases !userFile.isEmpty && meetsAgainIn userFile rootFile with
  | true => exact iff_of_false id nofun
  | false =>
    rw [if_neg Bool.false_ne_true, and_iff_right rfl]
    rcases fromVariables s.vars with ⟨name, e | f⟩ | vars
    · exact iff_of_false id nofun
    · exact iff_of_false id nofun
    · refine documented_ofSources.trans ⟨fun h => ⟨vars, rfl, h⟩, fun ⟨_, hvars, h⟩ => ?_⟩
      exact Except.ok.inj hvars ▸ h

/-- A file fails as the catalogue says, or by a fault. -/
theorem documented_or_fault_of_file {e : Failure} (h : entriesAt tree folder path = .error e) :
    Documented (.error (.failure e)) ∨ ∃ f, e = .fault f := by
  cases e with
  | catalog e => exact .inl (.inl (code_of_entriesAt h))
  | fault f => exact .inr ⟨f, rfl⟩

/-- **Every end of loading**: a documented one, a fault, or a section that cannot be read from the
variables. What has passed the check passes it again. -/
theorem load_ends (tree : Tree α) (folder : Place) (s : Surroundings) (root : Path)
    (given : Entries) : Documented (load tree folder s root given) ∨
    (∃ f, load tree folder s root given = .error (.failure (.fault f))) ∨
    ∃ name, load tree folder s root given = .error (.badVariable name) := by
  -- in the order of the loader: the file of the project, that of the user, the variables, and the
  -- check of all
  rcases hroot : entriesAt tree folder (fileOf root) with e | rootFile
  · rw [load_of_rootFailure hroot]
    rcases documented_or_fault_of_file hroot with h | ⟨f, rfl⟩
    · exact .inl h
    · exact .inr (.inl ⟨f, rfl⟩)
  rcases huser : entriesAt tree folder s.userFile with e | userFile
  · rw [load_of_userFailure hroot huser]
    rcases documented_or_fault_of_file huser with h | ⟨f, rfl⟩
    · exact .inl h
    · exact .inr (.inl ⟨f, rfl⟩)
  rw [load_of_tables hroot huser]
  split
  · exact .inr (.inl ⟨_, rfl⟩)
  · rcases fromVariables s.vars with ⟨name, e | f⟩ | vars
    · exact .inr (.inr ⟨name, rfl⟩)
    · exact .inr (.inl ⟨f, rfl⟩)
    · exact ofSources_ends.imp_right .inl

/-- What the command line makes of the settings: they are valid, or it has a message. -/
def Told : Except CommandLine.Ending CodeCatalog.Settings → Prop
  | .ok settings => settings.Valid
  | .error ending => ending.message?.isSome = true

/-- What the command line does with an end of loading. -/
def afterLoad : Except LoadError CodeCatalog.Settings → CommandLine.Run CodeCatalog.Settings
  | .ok settings => return settings
  | .error (.failure f) => CommandLine.Run.failWith f
  | .error e => throw (.failed e)

/-- An invocation loads its settings from the files and the surroundings that it finds, with nothing
given by a caller. -/
theorem run_loadSettings (c : CommandLine.Setting) (t : CommandLine.Terminal) (root : Path) :
    (CommandLine.loadSettings c root).run.run t =
      (afterLoad (load t.shelf.files t.shelf.folder.parts c.surroundings root [])).run.run t :=
  rfl

/-- The command line reports what is documented, and nothing else. -/
theorem told_iff (c : CommandLine.Setting) (t : CommandLine.Terminal) (root : Path) :
    Told ((CommandLine.loadSettings c root).run.run t).1 ↔
      Documented (load t.shelf.files t.shelf.folder.parts c.surroundings root []) := by
  have hends := load_ends t.shelf.files t.shelf.folder.parts c.surroundings root []
  rw [run_loadSettings]
  generalize load t.shelf.files t.shelf.folder.parts c.surroundings root [] = outcome at hends ⊢
  rcases hends with h | ⟨f, rfl⟩ | ⟨name, rfl⟩
  · -- an error that is documented is one of the catalogue, which has a message
    rcases outcome with ((e | f) | name | ps) | settings
    · exact iff_of_true rfl h
    iterate 3 exact h.elim
    exact Iff.rfl
  · exact iff_of_false Bool.false_ne_true id
  · exact iff_of_false Bool.false_ne_true id

/-- An output that the caller sends to the home folder of an unknown user. -/
def strayGiven : Entries :=
  [(.text "logging", .table [(.text "outputs", .list [.table
    [(.text "destination", .text "~nouser/x")]])])]

/-- A root whose settings file writes a date that there is none. -/
def undatedTree : Tree Unit where
  entries := [(["work"], .folder), (["work", ".codeindexer"], .folder),
    (["work", ".codeindexer", "config.yaml"], .file "limits: 2001-02-30".toUTF8)]

end CodeCatalog.Settings
