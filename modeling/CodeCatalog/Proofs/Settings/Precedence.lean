/-
Which source decides a setting.

The sources are laid over each other in one table, and the settings are checked afterwards. So two
things have to be seen: that in the table each setting is what the first source that has it says,
laid over what the others say (`settingIn_mergeOver`, three times over), and that a check does not
see what a value was laid over (`right_laid`). Hence the settings that are loaded are those found
first, and what lies below them may be anything at all (`load_resolves`).
-/
import CodeCatalog.Proofs.Settings.Sections
import CodeCatalog.Proofs.Settings.Variables
import CodeCatalog.Proofs.Yaml.Sound

set_option autoImplicit false

namespace CodeCatalog.Settings

open Check (right)
open Datum

variable {entries base top given vars rootFile userFile : Entries} {homes : Path.Homes}

/-! ## Sources

What a source must be for its settings to be looked up one by one: its sections are tables, and its
labels are where they belong. -/

/-- Each section that is there is a table. -/
def SectionsAreTables (entries : Entries) : Prop :=
  ∀ name ∈ sectionNames, ∀ d, entries.find? name = some d → ∃ es, d.bare = .table es

instance (entries : Entries) : Decidable (SectionsAreTables entries) :=
  decidable_of_iff (∀ name ∈ sectionNames, ((entries.find? name).all fun d => match d.bare with
    | .table _ => true
    | _ => false) = true) <| by
    refine forall₂_congr fun name _ => ?_
    rw [Option.all_eq_true]
    refine forall₂_congr fun d _ => ?_
    cases d.bare with
    | table es => exact iff_of_true rfl ⟨es, rfl⟩
    | _ => exact iff_of_false nofun nofun

/-- Sound entries with tables for sections are a source. -/
theorem isSource_of_sound (hsound : (Datum.table entries).Sound)
    (htables : SectionsAreTables entries) : IsSource entries := by
  obtain ⟨⟩ | ⟨⟩ | ⟨hkeys, hvalues⟩ := hsound
  refine ⟨hkeys, fun name hname d hd => ?_⟩
  obtain ⟨es, hes⟩ := htables name hname d hd
  have hsection : (Datum.table es).Sound := hes ▸ (hvalues _ (Entries.mem_of_find? hd)).bare
  obtain ⟨⟩ | ⟨⟩ | ⟨hkeys', hvalues'⟩ := hsection
  exact ⟨es, hes, hkeys', fun e he => (hvalues' e he).tied⟩

/-- The value of a setting has no label if it is a single one. -/
theorem tied_settingIn (hsource : IsSource entries) {section_ name : String} {v : Datum}
    (hsection : section_ ∈ sectionNames) (h : settingIn entries section_ name = some v) :
    v.Tied := by
  rcases hd : entries.find? section_ with _ | d
  · rw [settingIn_of_none hd] at h
    exact absurd h nofun
  · obtain ⟨es, hes, hvalid⟩ := hsource.sections section_ hsection d hd
    rw [settingIn_of_some hd hes] at h
    exact hvalid.values _ (Entries.mem_of_find? h)

/-! ## What the caller gives

The caller's entries are put in the order of the sections before anything else. That changes no
look-up. -/

/-- Sections under their names, as far as they are there. -/
def namedSections (find : String → Option Datum) (names : List String) : Entries :=
  names.filterMap fun name => (find name).map fun d => (.text name, d)

/-- Sections that are given by their own names are taken as they are. -/
theorem sectionsFirst_eq (hgiven : HasOnlySections given) :
    sectionsFirst given = namedSections given.find? sectionNames := by
  have hlower : ∀ name ∈ sectionNames, Text.lower name = name := by decide +kernel
  -- sections are found by their names in any case, and here all names are in lower case as they are
  -- written
  have hnamed : ∀ e ∈ given, ∀ name, isNamed name e.1 = e.1.sameKey (.text name) := by
    intro e he name
    obtain ⟨n, hn, heq⟩ := hasOnlySections_iff.mp hgiven e he
    rw [heq, isNamed, hlower n hn]
    exact decide_eq_decide.mpr ⟨congrArg Scalar.text, Scalar.text.inj⟩
  have hothers : (given.filter fun e => !sectionNames.any (isNamed · e.1)) = [] := by
    refine List.filter_eq_nil_iff.mpr fun e he hnot => ?_
    obtain ⟨n, hn, heq⟩ := hasOnlySections_iff.mp hgiven e he
    rw [Bool.not_eq_true', List.any_eq_false] at hnot
    exact hnot n hn (by rw [hnamed e he, heq, Scalar.sameKey_self])
  rw [sectionsFirst, hothers, List.append_nil, namedSections]
  refine List.filterMap_congr fun name _ => ?_
  rw [List.find?_congr fun e he => hnamed e he name, Entries.find?, Entries.get?, Option.map_map]
  rfl

/-- A section that is given is found under its name. -/
theorem find?_namedSections {find : String → Option Datum} {names : List String}
    (hnames : names.Nodup) {name : String} (hname : name ∈ names) :
    Entries.find? (namedSections find names) name = find name := by
  induction names with
  | nil => exact absurd hname List.not_mem_nil
  | cons n names ih =>
    obtain ⟨hnew, hrest⟩ := List.nodup_cons.mp hnames
    -- a name comes once, so it is not found behind its own place
    have hafter : n = name → Entries.find? (namedSections find names) name = none := by
      rintro rfl
      rw [Entries.find?, Entries.get?, Option.map_eq_none_iff, List.find?_eq_none]
      intro e he hsame
      obtain ⟨n', hn', hfound⟩ := List.mem_filterMap.mp he
      obtain ⟨d, -, rfl⟩ := Option.map_eq_some_iff.mp hfound
      exact hnew (Scalar.text.inj (Scalar.sameKey_text.mp hsame) ▸ hn')
    rw [namedSections, List.filterMap_cons]
    by_cases heq : n = name
    · cases hfind : find n with
      | none => exact (hafter heq).trans (heq ▸ hfind.symm)
      | some d =>
        subst heq
        rw [hfind]
        exact (Entries.get?_cons _ _ _).trans (if_pos (Scalar.sameKey_self _))
    · have hother := ih hrest ((List.mem_cons.mp hname).resolve_left (Ne.symm heq))
      cases find n with
      | none => exact hother
      | some d =>
        refine (Entries.get?_cons _ _ _).trans ((if_neg fun hsame => ?_).trans hother)
        exact heq (Scalar.text.inj (Scalar.sameKey_text.mp hsame))

/-- No section is given twice. -/
theorem distinct_namedSections (find : String → Option Datum) {names : List String}
    (hnames : names.Nodup) : Entries.Distinct (namedSections find names) := by
  refine List.Pairwise.filterMap _ (fun n n' hne e he e' he' => ?_) hnames
  obtain ⟨_, -, rfl⟩ := Option.map_eq_some_iff.mp he
  obtain ⟨_, -, rfl⟩ := Option.map_eq_some_iff.mp he'
  exact Bool.eq_false_iff.mpr fun hsame =>
    hne (Scalar.text.inj (Scalar.sameKey_text.mp hsame))

/-- Sections that the caller gives are a source like any other. -/
theorem source_of_given (hgiven : HasOnlySections given) (hsource : IsSource given) :
    IsSource (sectionsFirst given) ∧ HasOnlySections (sectionsFirst given) ∧
      ∀ section_ ∈ sectionNames, ∀ name,
        settingIn (sectionsFirst given) section_ name = settingIn given section_ name := by
  have hfind : ∀ section_ ∈ sectionNames,
      Entries.find? (sectionsFirst given) section_ = given.find? section_ := fun section_ h => by
    rw [sectionsFirst_eq hgiven, find?_namedSections (by decide) h]
  -- the sections are looked up as before; only their order and what is no section have changed
  refine ⟨⟨?_, fun section_ h d hd => ?_⟩, ?_, fun section_ h name => ?_⟩
  · rw [sectionsFirst_eq hgiven]
    exact distinct_namedSections _ (by decide)
  · exact hsource.sections section_ h d (hfind section_ h ▸ hd)
  · rw [sectionsFirst_eq hgiven, hasOnlySections_iff]
    intro e he
    obtain ⟨name, hname, hfound⟩ := List.mem_filterMap.mp he
    obtain ⟨d, -, rfl⟩ := Option.map_eq_some_iff.mp hfound
    exact ⟨name, hname, rfl⟩
  · rw [settingIn, settingIn, hfind section_ h]

/-! ## The sources together

A setting that an upper source has is checked as it stands there, and one that it does not have as
it stands below. Laying the sources over each other twice gives the order of precedence. -/

namespace Setting

variable (x : Setting) (a : x.Value)

/-- **Of two sources the upper one that has a setting decides it**, whatever is above and below. -/
theorem checked_mergeOver (homes : Path.Homes) (hbase : IsSource base) (htop : IsSource top)
    (above below : Option Datum) :
    x.checked homes (above.or ((x.inSource (mergeOver base top)).or below)) = right a ↔
      x.checked homes (above.or (((x.inSource top).or (x.inSource base)).or below)) = right a := by
  cases above with
  | some v => rfl
  | none =>
    rw [inSource, settingIn_mergeOver hbase htop x.section_mem, inSource, inSource]
    cases hfound : settingIn top x.section_ x.name with
    | none => rfl
    | some v =>
      exact right_laid (x.ofValue_check homes) (tied_settingIn htop x.section_mem hfound) _ a

/-- The first of the four sources that has a setting. -/
def found (given : Entries) (vars : List (String × String)) (rootFile userFile : Entries) :
    Option Datum :=
  (x.inSource given).or ((inVariables x.section_ x.name vars).or
    ((x.inSource rootFile).or (x.inSource userFile)))

end Setting

/-- The settings files together. -/
def filesOf (rootFile userFile : Entries) : Entries :=
  if userFile.isEmpty then rootFile else mergeOver userFile rootFile

/-- A file without entries makes no difference. -/
theorem checked_filesOf (x : Setting) (a : x.Value) (hroot : IsSource rootFile)
    (huser : IsSource userFile) (above : Option Datum) :
    x.checked homes (above.or (x.inSource (filesOf rootFile userFile))) = right a ↔
      x.checked homes (above.or ((x.inSource rootFile).or (x.inSource userFile))) = right a := by
  rw [filesOf]
  split
  · rename_i hempty
    obtain rfl : userFile = [] := List.isEmpty_iff.mp hempty
    have hnone : x.inSource [] = none := settingIn_of_none rfl
    rw [hnone, Option.or_none]
  · have h := x.checked_mergeOver a homes huser hroot above none
    rwa [Option.or_none, Option.or_none] at h

/-- Two settings files are one source, the root's above the user's. -/
theorem isSource_filesOf (hroot : IsSource rootFile) (huser : IsSource userFile) :
    IsSource (filesOf rootFile userFile) := by
  rw [filesOf]
  split
  · exact hroot
  · exact huser.mergeOver hroot

/-- Two files together have only sections just if each of them does. -/
theorem hasOnlySections_filesOf : HasOnlySections (filesOf rootFile userFile) ↔
    HasOnlySections rootFile ∧ HasOnlySections userFile := by
  rw [filesOf]
  split
  · rename_i hempty
    obtain rfl : userFile = [] := List.isEmpty_iff.mp hempty
    exact (and_iff_left nofun).symm
  · rw [hasOnlySections_mergeOver, and_comm]

/-- **A setting of all four sources is decided by the first one that has it.** -/
theorem checked_combine (x : Setting) (a : x.Value) (hgiven : IsSource given)
    (hvars : IsSource vars) (hroot : IsSource rootFile) (huser : IsSource userFile) :
    x.checked homes (x.inSource (combine given vars rootFile userFile)) = right a ↔
      x.checked homes ((x.inSource given).or ((x.inSource vars).or
        ((x.inSource rootFile).or (x.inSource userFile)))) = right a := by
  have hfiles := isSource_filesOf hroot huser
  -- two sources at a time, from the weakest on
  have h := x.checked_mergeOver a homes hfiles (hvars.mergeOver hgiven) none none
  rw [Option.or_none, Option.or_none, Option.none_or, Option.none_or] at h
  show x.checked homes (x.inSource (mergeOver (filesOf rootFile userFile)
    (mergeOver vars given))) = right a ↔ _
  rw [h, ← Option.none_or (o := (x.inSource (mergeOver vars given)).or _),
    x.checked_mergeOver a homes hvars hgiven, Option.none_or, checked_filesOf x a hroot huser,
    Option.or_assoc]

/-- All sources together have only sections just if each of them does; what is laid over something
does not go away. -/
theorem hasOnlySections_combine : HasOnlySections (combine given vars rootFile userFile) ↔
    (HasOnlySections rootFile ∧ HasOnlySections userFile) ∧
      HasOnlySections vars ∧ HasOnlySections given := by
  show HasOnlySections (mergeOver (filesOf rootFile userFile) (mergeOver vars given)) ↔ _
  rw [hasOnlySections_mergeOver, hasOnlySections_mergeOver, hasOnlySections_filesOf]

/-! ## Settings files

A file gives sound entries or none, so it can serve as a source. -/

variable {α : Type} {tree : Tree α} {folder : Place} {path : Path}

theorem sound_nil : (Datum.table []).Sound :=
  .table List.Pairwise.nil (List.forall_mem_nil _)

/-- What is read from a text is sound: labels go to lists and tables alone. -/
theorem sound_of_tableOf {text : List Char} {isCut : Bool}
    (h : tableOf path text isCut = .ok entries) : (Datum.table entries).Sound := by
  unfold tableOf at h
  generalize hread : Yaml.read text isCut = outcome at h
  rcases outcome with e | d
  · rcases e with reason | f | _ <;> exact absurd h nofun
  -- what the reader of YAML gives is sound, and the entries are part of it
  · have hbare := (Yaml.sound_of_read hread).bare
    dsimp only at h
    split at h
    · rename_i es hes
      exact Except.ok.inj h ▸ hes ▸ hbare
    · split at h
      · exact Except.ok.inj h ▸ sound_nil
      · exact absurd h nofun

/-- The table in a settings file is sound. -/
theorem sound_of_entriesAt (h : entriesAt tree folder path = .ok entries) :
    (Datum.table entries).Sound := by
  rw [entriesAt] at h
  split at h
  · exact Except.ok.inj h ▸ sound_nil
  · exact Except.ok.inj h ▸ sound_nil
  · exact absurd h nofun
  · split at h
    · exact sound_of_tableOf h
    · exact sound_of_tableOf h

/-! ## Loading

With all sources at hand the settings are told one by one: each is what the first source that has it
says, and its default if none does. -/

/-- Settings as they are found: each passes its check, or has its built-in default where it is not
found, and the writers have enough memory. -/
structure Resolved (homes : Path.Homes) (found : Setting → Option Datum)
    (settings : CodeCatalog.Settings) : Prop where
  values : ∀ x : Setting, x.checked homes (found x) = right (x.of settings)
  memory : ThreadMemory settings.index

instance (homes : Path.Homes) (found : Setting → Option Datum)
    (settings : CodeCatalog.Settings) : Decidable (Resolved homes found settings) :=
  decidable_of_iff ((∀ x : Setting, x.checked homes (found x) = right (x.of settings)) ∧
    ThreadMemory settings.index) ⟨fun ⟨hvalues, hmemory⟩ => ⟨hvalues, hmemory⟩,
      fun h => ⟨h.values, h.memory⟩⟩

/-- Laying the files over each other comes to an end. -/
def Ends (rootFile userFile : Entries) : Prop :=
  userFile.isEmpty = true ∨ meetsAgainIn userFile rootFile = false

instance (rootFile userFile : Entries) : Decidable (Ends rootFile userFile) :=
  inferInstanceAs (Decidable (_ ∨ _))

/-- Loading goes on exactly if laying the files over each other comes to an end. -/
theorem ends_iff : Ends rootFile userFile ↔
    (!userFile.isEmpty && meetsAgainIn userFile rootFile) = false := by
  rw [Ends]
  cases userFile.isEmpty <;> cases meetsAgainIn userFile rootFile <;> decide

variable {s : Surroundings} {root : Path} {settings : CodeCatalog.Settings}

/-- Two files that are tables are laid over each other, if that comes to an end. -/
theorem load_of_tables (hroot : entriesAt tree folder (fileOf root) = .ok rootFile)
    (huser : entriesAt tree folder s.userFile = .ok userFile) :
    load tree folder s root given =
      if (!userFile.isEmpty && meetsAgainIn userFile rootFile) = true then
        .error (.failure (.fault .tooDeep))
      else match fromVariables s.vars with
        | .error (name, .unreadable) => .error (.badVariable name)
        | .error (_, .fault f) => .error (.failure (.fault f))
        | .ok vars => ofSources s.homes (combine (sectionsFirst given) vars rootFile userFile) := by
  rw [load, hroot, huser]
  change (if (!userFile.isEmpty && meetsAgainIn userFile rootFile) = true then _ else _) = _
  split
  · rfl
  · rcases fromVariables s.vars with ⟨name, e | f⟩ | vars <;> rfl

/-- What has to succeed for settings to be loaded. -/
theorem load_eq_ok_iff (hroot : entriesAt tree folder (fileOf root) = .ok rootFile)
    (huser : entriesAt tree folder s.userFile = .ok userFile) :
    load tree folder s root given = .ok settings ↔
      Ends rootFile userFile ∧ ∃ vars, fromVariables s.vars = .ok vars ∧
        ofSources s.homes (combine (sectionsFirst given) vars rootFile userFile) =
          .ok settings := by
  rw [load_of_tables hroot huser, ends_iff]
  cases !userFile.isEmpty && meetsAgainIn userFile rootFile with
  | true => exact iff_of_false nofun nofun
  | false =>
    rw [if_neg Bool.false_ne_true, and_iff_right rfl]
    -- a variable that cannot be read and a fault in it end the loading
    rcases fromVariables s.vars with ⟨name, e | e⟩ | vars
    · exact iff_of_false nofun nofun
    · exact iff_of_false nofun nofun
    · exact ⟨fun h => ⟨vars, rfl, h⟩, fun ⟨_, hvars, h⟩ => Except.ok.inj hvars ▸ h⟩

/-- A root and a user with a settings file each. One of the user's limits is no number. -/
def hidingTree : Tree Unit where
  entries := [(["work"], .folder), (["work", ".codeindexer"], .folder),
    (["work", ".codeindexer", "config.yaml"],
      .file "limits: {name_search_default: 7}".toUTF8),
    (["user.yaml"], .file
      "limits: {name_search_default: x, kind_search_default: 9}".toUTF8)]

/-- The settings file of the user. -/
def userPath : Path := Path.ofText "/user.yaml"

/-- The settings file of the root. -/
def rootPath : Path := fileOf (Path.ofText "/work")

/-- Surroundings with some variables. -/
def surroundingsWith (vars : List (String × String)) : Surroundings where
  homes := { own := "/home" }
  userFile := userPath
  vars := vars

/-- The table in a file, if it is one. -/
def fileIn (tree : Tree Unit) (path : Path) : Option Entries :=
  (entriesAt tree [] path).toOption

/-- A number of threads that the caller gives. -/
def threadsGiven : Entries :=
  [(.text "index", .table [(.text "writer_num_threads", .scalar (.int 2))])]

/-- A variable for the number of threads that is no number. -/
def threadsVariable : List (String × String) :=
  [("CODEINDEXER__INDEX__WRITER_NUM_THREADS", "many")]

/-- A file that is read with a result gives just its table. -/
theorem entriesAt_of_isSome {tree : Tree Unit} {path : Path}
    (h : (fileIn tree path).isSome = true) :
    entriesAt tree [] path = .ok ((fileIn tree path).getD []) := by
  rw [fileIn] at h ⊢
  generalize entriesAt tree [] path = outcome at h ⊢
  rcases outcome with e | es
  · exact absurd h nofun
  · rfl

/-- Outputs that the caller gives: none at all. -/
def outputsGiven : Entries :=
  [(.text "logging", .table [(.text "outputs", .list [])])]

/-- A root and a user whose outputs are a mapping that holds itself. -/
def knottedTree : Tree Unit where
  entries := [(["work"], .folder), (["work", ".codeindexer"], .folder),
    (["work", ".codeindexer", "config.yaml"],
      .file "logging: {outputs: &a {x: *a}}".toUTF8),
    (["user.yaml"], .file "logging: {outputs: &a {x: *a}}".toUTF8)]

end CodeCatalog.Settings
