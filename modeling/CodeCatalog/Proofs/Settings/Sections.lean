/-
Settings from a source, setting by setting.

The ten settings are numbered by `Setting`, each with its place in a source, the type of its values
and its check. A source gives settings exactly if it has nothing beside the sections, each setting
in it passes its own check, and the writers have enough memory (`ofSources_eq_ok_iff`). A check
looks at the value alone: it does not see what the value was laid over (`right_laid`).
-/
import CodeCatalog.Proofs.Settings.Source
import CodeCatalog.Proofs.Settings.Validity
import CodeCatalog.Settings.Load

set_option autoImplicit false

namespace CodeCatalog.Settings

open Check (right wrong right_inj wrong_ne_right andThen_right also₂_right)
open Datum

/-! ## Checks of values

Laying a value over another one leaves a label or takes it off, but no check of a value looks at
labels. This is why precedence can be told value by value. -/

section

variable {α : Type} {check : Datum → Check α}

/-- A check that passes no table and looks through labels. -/
structure OfValue (check : Datum → Check α) : Prop where
  noTable : ∀ d es a, d.bare = .table es → check d ≠ right a
  bare : ∀ d a, (∀ s, d.bare ≠ .scalar s) → (check d.bare = right a ↔ check d = right a)

/-- **What a value was laid over does not matter** to a check of values. -/
theorem right_laid (hcheck : OfValue check) {d : Datum} (hd : d.Tied) (old : Option Datum) (a : α) :
    check (laid old d) = right a ↔ check d = right a := by
  cases old with
  | none => rfl
  | some old =>
    show check (merge old d) = right a ↔ check d = right a
    -- a value that is no table replaces what was there; two tables are merged, but no value that
    -- the check takes is one
    rcases old.isTable_or with ⟨es, hold⟩ | hold
    · rcases d.isTable_or with ⟨es', hes'⟩ | htable
      · rw [merge_tables hold hes']
        exact iff_of_false (hcheck.noTable _ _ _ rfl) (hcheck.noTable _ _ _ hes')
      · rw [merge_over_table hold htable]
        by_cases hscalar : ∃ s, d.bare = .scalar s
        · obtain ⟨s, hs⟩ := hscalar
          rw [hs, hd s hs]
        · exact hcheck.bare d a (not_exists.mp hscalar)
    · rw [merge_of_not_table hold]

/-- A check that passes nothing but single values. -/
theorem OfValue.of_scalars (h : ∀ d a, check d = right a → ∃ s, d = .scalar s) :
    OfValue check where
  noTable := fun d es a hd hright => by
    obtain ⟨s, rfl⟩ := h d a hright
    exact absurd hd nofun
  bare := fun d a hd => by
    refine iff_of_false (fun hright => ?_) (fun hright => ?_)
    · obtain ⟨s, hs⟩ := h _ a hright
      exact hd s hs
    · obtain ⟨s, rfl⟩ := h d a hright
      exact hd s rfl

/-- Only a scalar is a text or null. -/
theorem scalar_of_checkOptionalText (d : Datum) (a : Option String)
    (h : checkOptionalText d = right a) : ∃ s, d = .scalar s := by
  cases d with
  | scalar s => exact ⟨s, rfl⟩
  | _ => exact absurd h wrong_ne_right

/-- Only a scalar names a level. -/
theorem scalar_of_checkLevel (d : Datum) (a : Log.Level) (h : checkLevel d = right a) :
    ∃ s, d = .scalar s := by
  cases d with
  | scalar s => exact ⟨s, rfl⟩
  | _ => exact absurd h wrong_ne_right

/-- Only a scalar is a whole number. -/
theorem scalar_of_checkWhole (d : Datum) (a : Int) (h : checkWhole d = right a) :
    ∃ s, d = .scalar s := by
  cases d with
  | scalar s => exact ⟨s, rfl⟩
  | _ => exact absurd h wrong_ne_right

/-- Only a scalar is a number. -/
theorem scalar_of_checkReal (d : Datum) (a : Binary64) (h : checkReal d = right a) :
    ∃ s, d = .scalar s := by
  cases d with
  | scalar s => exact ⟨s, rfl⟩
  | _ => exact absurd h wrong_ne_right

theorem scalar_of_checkRule {holds : Int → Bool} {broken : Int → Cause} (d : Datum) (a : Int)
    (h : checkRule checkWhole holds broken d = right a) : ∃ s, d = .scalar s :=
  scalar_of_checkWhole d a (checkRule_right.mp h).1

/-- A list is checked for what it is, also through its label. -/
theorem ofValue_checkList (check : Datum → Check α) : OfValue (checkList check) where
  noTable := fun d es a hd hright => by
    obtain ⟨items, hitems, -⟩ := checkList_right.mp hright
    rw [itemsOf?, hd] at hitems
    exact absurd hitems nofun
  bare := fun d a _ => by
    rw [checkList_right, checkList_right, itemsOf?, itemsOf?, bare_bare]

end

/-! ## The settings

The ten settings with their places, types and checks. What is said of all of them is said once, for
a setting. -/

/-- A setting of one of the three sections. -/
inductive Setting
  | level
  | outputs
  | indexPath
  | writerHeap
  | writerThreads
  | refreshInterval
  | byName
  | byKind
  | byParent
  | advanced
  deriving Repr, DecidableEq

namespace Setting

/-- The section of a setting. -/
def section_ : Setting → String
  | level | outputs => "logging"
  | indexPath | writerHeap | writerThreads | refreshInterval => "index"
  | byName | byKind | byParent | advanced => "limits"

/-- The name of a setting in its section. -/
def name : Setting → String
  | level => "level"
  | outputs => "outputs"
  | indexPath => "index_path"
  | writerHeap => "writer_heap_size_mb"
  | writerThreads => "writer_num_threads"
  | refreshInterval => "refresh_min_interval_sec"
  | byName => "name_search_default"
  | byKind => "kind_search_default"
  | byParent => "parent_search_default"
  | advanced => "advanced_search_default"

/-- The type of a setting's values. -/
def Value : Setting → Type
  | level => Log.Level
  | outputs => List LogOutput
  | indexPath => Option String
  | refreshInterval => Binary64
  | writerHeap | writerThreads | byName | byKind | byParent | advanced => Int

/-- The value of a setting. -/
def of (s : CodeCatalog.Settings) : (x : Setting) → x.Value
  | level => s.logging.level
  | outputs => s.logging.outputs
  | indexPath => s.index.indexPath
  | writerHeap => s.index.writerHeapMegabytes
  | writerThreads => s.index.writerThreads
  | refreshInterval => s.index.refreshInterval
  | byName => s.limits.byName
  | byKind => s.limits.byKind
  | byParent => s.limits.byParent
  | advanced => s.limits.advanced

/-- The check of a setting. -/
def check (homes : Path.Homes) : (x : Setting) → Datum → Check x.Value
  | level => checkLevel
  | outputs => checkList (checkOutput homes)
  | indexPath => checkOptionalText
  | writerHeap => checkRule checkWhole (fun n : Int => minThreadMegabytes ≤ n) .smallHeap
  | writerThreads => checkRule checkWhole (fun n : Int => 0 ≤ n) .negativeThreads
  | refreshInterval => checkReal
  | byName | byKind | byParent | advanced => checkLimit

/-- What a setting counts as: its built-in default where no source has it. -/
def checked (homes : Path.Homes) (x : Setting) : Option Datum → Check x.Value :=
  Settings.checked (of {} x) (check homes x)

theorem section_mem (x : Setting) : x.section_ ∈ sectionNames := by
  cases x <;> decide

/-- The check of each setting is one of values: no setting is a table. -/
theorem ofValue_check (homes : Path.Homes) (x : Setting) : OfValue (x.check homes) := by
  cases x with
  | level => exact .of_scalars scalar_of_checkLevel
  | outputs => exact ofValue_checkList _
  | indexPath => exact .of_scalars scalar_of_checkOptionalText
  | refreshInterval => exact .of_scalars scalar_of_checkReal
  | _ => exact .of_scalars scalar_of_checkRule

/-- A fact about all settings, section by section. -/
theorem forall_iff {P : Setting → Prop} : (∀ x, P x) ↔
    (P level ∧ P outputs) ∧
    (P indexPath ∧ P writerHeap ∧ P writerThreads ∧ P refreshInterval) ∧
    P byName ∧ P byKind ∧ P byParent ∧ P advanced := by
  refine ⟨fun h => ⟨⟨h _, h _⟩, ⟨h _, h _, h _, h _⟩, h _, h _, h _, h _⟩, ?_⟩
  rintro ⟨⟨hlevel, houtputs⟩, ⟨hpath, hheap, hthreads, hinterval⟩, hname, hkind, hparent,
    hadvanced⟩ x
  cases x <;> assumption

instance (P : Setting → Prop) [DecidablePred P] : Decidable (∀ x, P x) :=
  decidable_of_iff _ forall_iff.symm

instance : (x : Setting) → DecidableEq x.Value
  | level => inferInstanceAs (DecidableEq Log.Level)
  | outputs => inferInstanceAs (DecidableEq (List LogOutput))
  | indexPath => inferInstanceAs (DecidableEq (Option String))
  | refreshInterval => inferInstanceAs (DecidableEq Binary64)
  | writerHeap | writerThreads | byName | byKind | byParent | advanced =>
    inferInstanceAs (DecidableEq Int)

/-- The setting of a source. -/
def inSource (x : Setting) (entries : Entries) : Option Datum :=
  settingIn entries x.section_ x.name

end Setting

/-! ## Sections of a source

Each section of a source is right just if each of its settings is. The index has one more rule,
about what two of its settings give together. -/

variable {homes : Path.Homes} {entries : Entries} {s : Settings}

/-- A datum is one table at most. -/
theorem exists_table_iff {d : Datum} {es : Entries} {P : Entries → Prop}
    (hes : d.bare = .table es) : (∃ es', d.bare = .table es' ∧ P es') ↔ P es := by
  refine ⟨?_, fun h => ⟨es, hes, h⟩⟩
  rintro ⟨es', hes', h⟩
  exact Datum.table.inj (hes'.symm.trans hes) ▸ h

/-- The logging section of a source, read off its two settings. -/
theorem checkLogging_settings (hsource : IsSource entries) {l : LogSettings} :
    checked {} (checkLogging homes) (entries.find? "logging") = right l ↔
      checked .info checkLevel (settingIn entries "logging" "level") = right l.level ∧
      checked [{}] (checkList (checkOutput homes)) (settingIn entries "logging" "outputs") =
        right l.outputs := by
  rcases hd : entries.find? "logging" with _ | d
  · simp only [settingIn_of_none hd, checked, right_inj]
    cases l
    rw [LogSettings.mk.injEq]
  · obtain ⟨es, hes, -⟩ := hsource.sections "logging" (by decide) d hd
    rw [settingIn_of_some hd hes, settingIn_of_some hd hes]
    exact checkLogging_right.trans (exists_table_iff hes)

/-- The index section of a source, read off its four settings, and the memory that they leave each
thread. -/
theorem checkIndex_settings (hsource : IsSource entries) {i : IndexSettings} :
    checked {} checkIndex (entries.find? "index") = right i ↔
      (checked none checkOptionalText (settingIn entries "index" "index_path") =
        right i.indexPath ∧
      checked 128 (checkRule checkWhole (minThreadMegabytes ≤ ·) .smallHeap)
        (settingIn entries "index" "writer_heap_size_mb") = right i.writerHeapMegabytes ∧
      checked 0 (checkRule checkWhole (0 ≤ ·) .negativeThreads)
        (settingIn entries "index" "writer_num_threads") = right i.writerThreads ∧
      checked defaultInterval checkReal (settingIn entries "index" "refresh_min_interval_sec") =
        right i.refreshInterval) ∧ ThreadMemory i := by
  -- without the section all its settings are the defaults, and the defaults keep the rule about
  -- memory
  rcases hd : entries.find? "index" with _ | d
  · simp only [settingIn_of_none hd, checked, right_inj]
    cases i
    rw [IndexSettings.mk.injEq]
    refine ⟨fun hsame => ⟨hsame, ?_⟩, And.left⟩
    obtain ⟨rfl, rfl, rfl, rfl⟩ := hsame
    exact valid_default.index.memory
  · obtain ⟨es, hes, -⟩ := hsource.sections "index" (by decide) d hd
    simp only [settingIn_of_some hd hes]
    refine checkIndex_right.trans (and_congr_left' ?_)
    rw [exists_table_iff hes, checkIndexFields_right]

/-- The limits of a source, read off its four settings. -/
theorem checkLimits_settings (hsource : IsSource entries) {l : LimitSettings} :
    checked {} checkLimits (entries.find? "limits") = right l ↔
      checked 100 checkLimit (settingIn entries "limits" "name_search_default") =
        right l.byName ∧
      checked 1000 checkLimit (settingIn entries "limits" "kind_search_default") =
        right l.byKind ∧
      checked 1000 checkLimit (settingIn entries "limits" "parent_search_default") =
        right l.byParent ∧
      checked 100 checkLimit (settingIn entries "limits" "advanced_search_default") =
        right l.advanced := by
  -- as for the index, without a rule that joins the fields
  rcases hd : entries.find? "limits" with _ | d
  · simp only [settingIn_of_none hd, checked, right_inj]
    cases l
    rw [LimitSettings.mk.injEq]
  · obtain ⟨es, hes, -⟩ := hsource.sections "limits" (by decide) d hd
    simp only [settingIn_of_some hd hes]
    exact checkLimits_right.trans (exists_table_iff hes)

/-- **The sections of a source are right** exactly if each setting in it is, and the writers have
enough memory. -/
theorem checkSections_iff (hsource : IsSource entries) : checkSections homes entries = right s ↔
    (∀ x : Setting, x.checked homes (x.inSource entries) = right (x.of s)) ∧
      ThreadMemory s.index := by
  rw [checkSections_right, checkLogging_settings hsource, checkIndex_settings hsource,
    checkLimits_settings hsource, Setting.forall_iff]
  simp only [Setting.checked, Setting.inSource, Setting.section_, Setting.name, Setting.of,
    Setting.check]
  constructor
  · rintro ⟨hlogging, ⟨hindex, hmemory⟩, hlimits⟩
    exact ⟨⟨hlogging, hindex, hlimits⟩, hmemory⟩
  · rintro ⟨⟨hlogging, hindex, hlimits⟩, hmemory⟩
    exact ⟨hlogging, ⟨hindex, hmemory⟩, hlimits⟩

/-! ## Nothing beside the sections

Keys that are no section are refused, and keys that are no text end the check. Both are about the
source as a whole. -/

/-- A source has only sections just if each of its keys is the name of one. -/
theorem hasOnlySections_iff :
    HasOnlySections entries ↔ ∀ e ∈ entries, ∃ name ∈ sectionNames, e.1 = .text name := by
  constructor
  · exact fun h e he => h e.1 (List.any_eq_true.mpr ⟨e, he, Scalar.sameKey_self e.1⟩)
  · intro h key hkey
    obtain ⟨e, he, hsame⟩ := List.any_eq_true.mp hkey
    obtain ⟨name, hname, heq⟩ := h e he
    rw [heq, Scalar.sameKey_comm] at hsame
    exact ⟨name, hname, Scalar.sameKey_text.mp hsame⟩

instance (entries : Entries) : Decidable (HasOnlySections entries) :=
  decidable_of_iff _ hasOnlySections_iff.symm

/-- The last check passes just if every key that is a text is the name of a section. -/
theorem checkNothingElse_right : checkNothingElse entries = right () ↔
    ∀ e ∈ entries, ∀ name, e.1 = .text name → name ∈ sectionNames := by
  rw [checkNothingElse]
  constructor
  · intro h e he name hname
    by_contra hother
    split at h
    · -- nothing was found, so this entry was passed over
      rename_i hempty
      obtain ⟨key, d⟩ := e
      obtain rfl : key = .text name := hname
      rw [List.isEmpty_iff, List.filterMap_eq_nil_iff] at hempty
      have hnone : (if sectionNames.contains name then none
          else some ({ way := [.setting name], cause := .notExpected, found := d } : Problem)) =
            none := hempty _ he
      rw [if_neg fun h => hother (List.contains_iff_mem.mp h)] at hnone
      exact absurd hnone nofun
    · exact absurd (Except.ok.inj h) nofun
  · intro h
    rw [if_pos]
    · rfl
    · rw [List.isEmpty_iff, List.filterMap_eq_nil_iff]
      rintro ⟨key, d⟩ he
      cases key with
      | text name => exact if_pos (List.contains_iff_mem.mpr (h _ he name rfl))
      | _ => rfl

/-- The whole check is that of the sections and that of everything else. -/
theorem checkExactly_right : checkExactly homes entries = right s ↔
    checkSections homes entries = right s ∧ checkNothingElse entries = right () := by
  rw [checkExactly, also₂_right]
  constructor
  · rintro ⟨_, ⟨⟩, hsections, hnothing, rfl⟩
    exact ⟨hsections, hnothing⟩
  · rintro ⟨hsections, hnothing⟩
    exact ⟨s, (), hsections, hnothing, rfl⟩

/-- A source has only sections just if its keys are texts and the last check passes. -/
theorem hasOnlySections_iff_right : HasOnlySections entries ↔
    entries.all (isTextKey ·.1) = true ∧ checkNothingElse entries = right () := by
  rw [hasOnlySections_iff, List.all_eq_true, checkNothingElse_right, ← forall₂_and]
  refine forall₂_congr fun e _ => ?_
  obtain ⟨key, d⟩ := e
  cases key with
  | text n =>
    refine ⟨fun ⟨name, hname, heq⟩ => ⟨rfl, fun n' hn' => ?_⟩, fun ⟨_, h⟩ => ⟨n, h n rfl, rfl⟩⟩
    exact Scalar.text.inj (heq.symm.trans hn') ▸ hname
  | _ => exact iff_of_false (fun ⟨_, _, h⟩ => absurd h nofun) (fun ⟨h, _⟩ => absurd h nofun)

/-- **Combined sources give settings** exactly if they have nothing beside the sections and pass the
check. Being checked a second time does not matter. -/
theorem ofSources_eq_ok_iff : ofSources homes entries = .ok s ↔
    HasOnlySections entries ∧ checkSections homes entries = right s := by
  rw [hasOnlySections_iff_right, and_assoc, and_comm (a := checkNothingElse entries = right ()),
    ← checkExactly_right, ofSources]
  rcases hkeys : entries.all (isTextKey ·.1) with _ | _
  · exact iff_of_false nofun nofun
  · rw [and_iff_right rfl]
    rcases hcheck : checkExactly homes entries with fault | ps | settings
    · exact iff_of_false nofun nofun
    · cases ps <;> exact iff_of_false nofun fun h => absurd (Except.ok.inj h) nofun
    -- what was found right is valid, and so is found right again when it is checked as a dump
    · have hvalid : settings.Valid := valid_of_right (checkExactly_right.mp hcheck).1
      have hagain : checkAll homes settings.toDatum = .ok (.ok settings) := checkAll_toDatum hvalid
      simp only [hagain]
      constructor
      · exact fun h => congrArg right (Except.ok.inj h)
      · exact fun h => congrArg Except.ok (right_inj.mp h)

end CodeCatalog.Settings
