/-
The check of the settings is idempotent.

A check rewrites what it is given: texts become numbers, the tilde of a destination becomes a home
folder, slashes that say nothing are dropped, and what is missing gets its default. What comes out
is valid, and valid settings are exactly those that the check leaves as they are when they are
written out as data (`valid_iff_fixed`). Home folders do not come into it any more, since all
destinations are absolute by then. So the settings that loading checks twice could as well be
checked once (`ofSources_eq_once`).
-/
import CodeCatalog.Proofs.Settings.Outcome

set_option autoImplicit false

namespace CodeCatalog.Settings

open Check (right right_inj andThen_right)

variable {homes : Path.Homes} {entries : Entries} {d e : Datum} {s : CodeCatalog.Settings}

/-! ## Fixed points

Settings that were checked are valid, and valid settings written out as data are right as they are.
So one check is as good as two, and being valid is being left as it is. -/

theorem valid_of_all (h : checkAll homes d = right s) : s.Valid := by
  obtain ⟨entries, -, hsections⟩ := checkSection_right.mp h
  exact valid_of_right hsections

/-- **The fixed points of the check are the valid settings**, whatever the home folders are. -/
theorem valid_iff_fixed : s.Valid ↔ checkAll homes s.toDatum = right s :=
  ⟨checkAll_toDatum, valid_of_all⟩

/-- What a check of settings that are written out again has let through comes from settings. -/
theorem dumped_right {α : Type} {c : Check α} {dump : α → Datum} :
    c.andThen (right ∘ dump) = right e ↔ ∃ a, c = right a ∧ dump a = e := by
  rw [andThen_right]
  exact exists_congr fun a => and_congr_right fun _ => right_inj

/-- Each section that has passed its check passes it again, as do all of them together. -/
theorem checkDatum_again (of : Section) (h : checkDatum homes of d = right e)
    (homes' : Path.Homes) : checkDatum homes' of e = right e := by
  -- a section that checked has a value, the dump is made of it, and the value is valid; so the dump
  -- checks
  cases of with
  | output =>
    obtain ⟨o, ho, rfl⟩ := dumped_right.mp h
    exact dumped_right.mpr ⟨o, checkOutput_toDatum (isDestination_of_output ho), rfl⟩
  | logging =>
    obtain ⟨l, hl, rfl⟩ := dumped_right.mp h
    exact dumped_right.mpr ⟨l, checkLogging_toDatum (valid_of_logging hl), rfl⟩
  | index =>
    obtain ⟨i, hi, rfl⟩ := dumped_right.mp h
    exact dumped_right.mpr ⟨i, checkIndex_toDatum (valid_of_index hi), rfl⟩
  | limits =>
    obtain ⟨l, hl, rfl⟩ := dumped_right.mp h
    exact dumped_right.mpr ⟨l, checkLimits_toDatum (valid_of_limits hl), rfl⟩
  | all =>
    obtain ⟨s, hs, rfl⟩ := dumped_right.mp h
    exact dumped_right.mpr ⟨s, checkAll_toDatum (valid_of_all hs), rfl⟩

/-! ## The second check when settings are loaded

Settings are checked, written out and checked again when they are loaded. By the above the second
check can be left out of every proof about loading. -/

/-- The settings that combined sources give if what has passed the check is taken as it is. -/
def ofSourcesOnce (homes : Path.Homes) (entries : Entries) :
    Except LoadError CodeCatalog.Settings := do
  if !entries.all (isTextKey ·.1) then throw (.failure (.fault .keyNotText))
  match checkExactly homes entries with
  | .error fault => throw (.failure (.fault fault))
  | .ok (.error []) => throw (.problems [])
  | .ok (.error (p :: _)) => throw (.failure (problemFailure p))
  | .ok (.ok settings) => return settings

/-- **The second check could be left out**: it has no say in the settings nor in the error. -/
theorem ofSources_eq_once (homes : Path.Homes) (entries : Entries) :
    ofSources homes entries = ofSourcesOnce homes entries := by
  cases hkeys : entries.all (isTextKey ·.1) with
  | false => rw [ofSources_of_key hkeys, ofSourcesOnce, hkeys]; rfl
  | true =>
    rcases hcheck : checkExactly homes entries with f | ps | s
    · rw [ofSources_of_fault hkeys hcheck, ofSourcesOnce, hkeys, hcheck]; rfl
    · rcases ps with _ | ⟨p, ps⟩
      · exact absurd hcheck checkExactly_ne_nil
      · rw [ofSources_of_problem hkeys hcheck, ofSourcesOnce, hkeys, hcheck]; rfl
    · rw [ofSources_of_right hkeys hcheck, ofSourcesOnce, hkeys, hcheck]; rfl

/-- Loading never ends because settings pass the check once and not again. -/
theorem load_ne_problems {α : Type} (tree : Tree α) (folder : Place) (surroundings : Surroundings)
    (root : Path) (given : Entries) (ps : List Problem) :
    load tree folder surroundings root given ≠ .error (.problems ps) := by
  intro h
  rcases load_ends tree folder surroundings root given with hdocumented | ⟨f, hf⟩ | ⟨name, hname⟩
  · rw [h] at hdocumented
    exact hdocumented
  · exact absurd (h.symm.trans hf) nofun
  · exact absurd (h.symm.trans hname) nofun

/-- **The check is idempotent.** Settings that have passed it, from any data at all, pass it as data
and stay what they are, even if the home folders have changed in between. When settings are loaded,
the second check therefore changes nothing, neither the settings nor the way in which it fails. -/
theorem check_idempotent :
    (∀ {homes : Path.Homes} {d : Datum} {s : CodeCatalog.Settings},
      checkAll homes d = right s → ∀ homes', checkAll homes' s.toDatum = right s) ∧
    (∀ (homes : Path.Homes) (entries : Entries),
      ofSources homes entries = ofSourcesOnce homes entries) ∧
    ∀ {α : Type} (tree : Tree α) (folder : Place) (surroundings : Surroundings) (root : Path)
      (given : Entries) (ps : List Problem),
      load tree folder surroundings root given ≠ .error (.problems ps) :=
  ⟨fun h _ => checkAll_toDatum (valid_of_all h), ofSources_eq_once, load_ne_problems⟩

/-- Two outputs with destinations that are rewritten, one of them named after another user, and
numbers that are written as texts, as a real number and as a truth value. -/
def looseDatum : Datum :=
  table [
    ("limits", table [("kind_search_default", .text " 1_0 "),
      ("name_search_default", .scalar (.real (.ofInt 7))),
      ("parent_search_default", .scalar (.bool true))]),
    ("logging", table [("outputs", .list [
      table [("destination", .text "~//logs/./day.log/"), ("level", .text "DEBUG")],
      table [("destination", .text "~ann/../x//"), ("format", .text "json")]])]),
    ("index", table [("writer_num_threads", .text "2"), ("writer_heap_size_mb", .text "30"),
      ("index_path", .text "~//index/"), ("refresh_min_interval_sec", .text "nan")])]

/-- The settings that they are read as. -/
def strictSettings : CodeCatalog.Settings where
  logging := { outputs := [
    { destination := "/home/logs/day.log", level := some .debug },
    { destination := "/ann/../x", format := .json }] }
  index := { indexPath := some "~//index/", writerHeapMegabytes := 30, writerThreads := 2,
             refreshInterval := .nan }
  limits := { byName := 7, byKind := 10, byParent := 1 }

/-- Numbers that are written as texts, and a path with a home folder and doubled separators: the
first check changes them, the second one nothing more. -/
theorem check_idempotent_loose :
    checkAll { own := "/home//", others := [("ann", "/ann")] } looseDatum = right strictSettings ∧
    ∀ homes', checkAll homes' strictSettings.toDatum = right strictSettings := by
  have hloose : checkAll { own := "/home//", others := [("ann", "/ann")] } looseDatum =
      right strictSettings := by
    decide +kernel
  exact ⟨hloose, check_idempotent.1 hloose⟩

end CodeCatalog.Settings
