/-
Settings that pass the check pass it again.

What a check lets through is `Valid`, a default or not: the destinations are streams or absolute
paths as they are written, and the numbers lie in their ranges. And that is all that the check asks
of settings that are written out as data (`checkAll_toDatum`). So the second check that settings go
through when they are loaded neither fails nor changes a value.
-/
import CodeCatalog.Proofs.Settings.Check
import CodeCatalog.Proofs.Storage.Path

set_option autoImplicit false

namespace CodeCatalog

/-! ## Valid settings

The rules that hold of settings that were checked, told without the check. -/

/-- A standard stream, or the text of an absolute path as it is written. -/
def IsDestination (s : String) : Prop :=
  s = "stderr" ∨ s = "stdout" ∨ ∃ p : Path, p.Normal ∧ p.isAbsolute = true ∧ p.text = s

/-- A limit lies between one and the most results that any search gives. -/
def IsLimit (n : Int) : Prop :=
  1 ≤ n ∧ n ≤ maxResults

instance (n : Int) : Decidable (IsLimit n) := inferInstanceAs (Decidable (_ ∧ _))

/-- Events are logged to places that there can be. -/
def LogSettings.Valid (s : LogSettings) : Prop :=
  ∀ o ∈ s.outputs, IsDestination o.destination

/-- The writers of the index have enough memory, all together and each. -/
structure IndexSettings.Valid (s : IndexSettings) : Prop where
  heap : minThreadMegabytes ≤ s.writerHeapMegabytes
  threads : 0 ≤ s.writerThreads
  memory : Settings.ThreadMemory s

/-- All limits lie in their range. -/
structure LimitSettings.Valid (s : LimitSettings) : Prop where
  byName : IsLimit s.byName
  byKind : IsLimit s.byKind
  byParent : IsLimit s.byParent
  advanced : IsLimit s.advanced

/-- Settings that keep every rule. -/
structure Settings.Valid (s : Settings) : Prop where
  logging : s.logging.Valid
  index : s.index.Valid
  limits : s.limits.Valid

namespace Settings

open Check (right wrong right_inj wrong_ne_right andThen_right)

variable {α : Type} {homes : Path.Homes} {d : Datum}

/-! ## What is right is valid

From a check that is right to what it let through, section by section. Defaults keep the rules as
well. -/

/-- What a default and the values of a check are, a setting is. -/
theorem of_checked {P : α → Prop} {default a : α} {check : Datum → Check α} {found : Option Datum}
    (hdefault : P default) (hcheck : ∀ d a, check d = right a → P a)
    (h : checked default check found = right a) : P a := by
  rcases found with _ | d
  · rw [← right_inj.mp h]
    exact hdefault
  · exact hcheck d a h

/-- A destination that passes the check is written as it is used: a stream, or an absolute path in
its own spelling. -/
theorem isDestination_of_right {s : String} (h : checkDestination homes d = right s) :
    IsDestination s := by
  obtain ⟨t, -, h⟩ := andThen_right.mp h
  split at h
  · rename_i hstream
    rw [← right_inj.mp h]
    -- a destination is the name of a stream or a path that is absolute when its home is written out
    exact hstream.elim .inl fun h => .inr (.inl h)
  · split at h
    · exact absurd h nofun
    · rename_i path hpath
      split at h
      · rename_i habsolute
        exact .inr (.inr ⟨path, (Path.normal_ofText t).expandHome hpath, habsolute, right_inj.mp h⟩)
      · exact absurd h wrong_ne_right

/-- A limit that passes the check lies in its range. -/
theorem isLimit_of_right {n : Int} (h : checkLimit d = right n) : IsLimit n := by
  obtain ⟨-, hrange⟩ := checkRule_right.mp h
  rw [Bool.and_eq_true, decide_eq_true_iff, decide_eq_true_iff] at hrange
  exact hrange

/-- The destination of an output that passes is one, also if it is the default. -/
theorem isDestination_of_output {o : LogOutput} (h : checkOutput homes d = right o) :
    IsDestination o.destination := by
  obtain ⟨entries, -, -, hdestination, -⟩ := checkOutput_right.mp h
  exact of_checked (.inl rfl) (fun _ _ => isDestination_of_right) hdestination

/-- A logging section that passes logs to places that there can be. -/
theorem valid_of_logging {s : LogSettings} (h : checkLogging homes d = right s) : s.Valid := by
  obtain ⟨entries, -, -, houtputs⟩ := checkLogging_right.mp h
  refine of_checked (P := fun os => ∀ o ∈ os, IsDestination o.destination) ?_ ?_ houtputs
  · exact List.forall_mem_singleton.mpr (.inl rfl)
  · intro d os h
    obtain ⟨items, -, hitems⟩ := checkList_right.mp h
    clear h
    induction hitems with
    | nil => exact fun _ ho => absurd ho List.not_mem_nil
    | cons ho _ ih => exact List.forall_mem_cons.mpr ⟨isDestination_of_output ho, ih⟩

/-- An index section that passes keeps the rules for memory and threads. -/
theorem valid_of_index {s : IndexSettings} (h : checkIndex d = right s) : s.Valid := by
  obtain ⟨⟨entries, -, hfields⟩, hmemory⟩ := checkIndex_right.mp h
  obtain ⟨-, hheap, hthreads, -⟩ := checkIndexFields_right.mp hfields
  refine ⟨?_, ?_, hmemory⟩
  · exact of_checked (P := (minThreadMegabytes ≤ ·)) (by decide)
      (fun _ _ h => of_decide_eq_true (checkRule_right.mp h).2) hheap
  · exact of_checked (P := (0 ≤ ·)) (le_refl 0)
      (fun _ _ h => of_decide_eq_true (checkRule_right.mp h).2) hthreads

/-- A section of limits that passes has each of them in its range. -/
theorem valid_of_limits {s : LimitSettings} (h : checkLimits d = right s) : s.Valid := by
  obtain ⟨entries, -, hname, hkind, hparent, hadvanced⟩ := checkLimits_right.mp h
  have hlimit : ∀ {default n : Int} {found : Option Datum}, IsLimit default →
      checked default checkLimit found = right n → IsLimit n :=
    fun hdefault => of_checked hdefault fun _ _ => isLimit_of_right
  exact ⟨hlimit (by decide) hname, hlimit (by decide) hkind, hlimit (by decide) hparent,
    hlimit (by decide) hadvanced⟩

/-- **The default settings are valid.** -/
theorem valid_default : Valid {} where
  logging := List.forall_mem_singleton.mpr (.inl rfl)
  index := ⟨by decide, by decide, none, rfl, nofun⟩
  limits := ⟨by decide, by decide, by decide, by decide⟩

/-- **What passes the check is valid.** -/
theorem valid_of_right {entries : Entries} {s : Settings}
    (h : checkSections homes entries = right s) : s.Valid := by
  obtain ⟨hlogging, hindex, hlimits⟩ := checkSections_right.mp h
  exact ⟨of_checked valid_default.logging (fun _ _ => valid_of_logging) hlogging,
    of_checked valid_default.index (fun _ _ => valid_of_index) hindex,
    of_checked valid_default.limits (fun _ _ => valid_of_limits) hlimits⟩

/-! ## Valid settings are right

The other way round: valid settings, written out as data, are taken as they are. No home folder is
asked for, since valid paths are absolute. -/

/-- A stream or an absolute path in its own spelling is taken as it is; the home folders are not
asked. -/
theorem checkDestination_text {s : String} (h : IsDestination s) :
    checkDestination homes (.text s) = right s := by
  rw [checkDestination, andThen_right]
  refine ⟨s, rfl, ?_⟩
  split
  · rfl
  · rename_i hstream
    obtain ⟨p, hnormal, habsolute, rfl⟩ : ∃ p : Path, p.Normal ∧ p.isAbsolute = true ∧ p.text = s :=
      (h.resolve_left fun h => hstream (.inl h)).resolve_left fun h => hstream (.inr h)
    -- an absolute path has no home to write out
    have hexpand : (Path.ofText p.text).expandHome homes = .ok p := by
      rw [hnormal.ofText_text habsolute, Path.expandHome, habsolute]
    rw [hexpand]
    exact if_pos habsolute

theorem checkLevel_text (l : Log.Level) : checkLevel (.text l.settingName) = right l := by
  cases l <;> rfl

/-- A level that may be absent is read back from its name or from null. -/
theorem checkOptionalLevel_text (l : Option Log.Level) :
    checkOptionalLevel (optionalText (l.map Log.Level.settingName)) = right l := by
  rcases l with _ | l
  · rfl
  · exact andThen_right.mpr ⟨l, checkLevel_text l, rfl⟩

theorem checkFormat_text (f : LogFormat) :
    checkNamed [.json, .console] LogFormat.name (.text f.name) = right f := by
  cases f <;> rfl

theorem checkOptionalText_text (s : Option String) :
    checkOptionalText (optionalText s) = right s := by
  rcases s with _ | s <;> rfl

/-- A limit in its range is taken as it is. -/
theorem checkLimit_int {n : Int} (h : IsLimit n) : checkLimit (.scalar (.int n)) = right n := by
  refine checkRule_right.mpr ⟨rfl, ?_⟩
  rw [Bool.and_eq_true, decide_eq_true_iff, decide_eq_true_iff]
  exact h

/-- An output is read back from its own table. -/
theorem checkOutput_toDatum {o : LogOutput} (h : IsDestination o.destination) :
    checkOutput homes o.toDatum = right o :=
  checkOutput_right.mpr ⟨_, rfl, checkFormat_text o.format, checkDestination_text h,
    checkOptionalLevel_text o.level⟩

/-- A valid logging section is read back from its own table. -/
theorem checkLogging_toDatum {s : LogSettings} (h : s.Valid) :
    checkLogging homes s.toDatum = right s := by
  refine checkLogging_right.mpr ⟨_, rfl, checkLevel_text s.level, ?_⟩
  show checkList (checkOutput homes) (.list (s.outputs.map LogOutput.toDatum)) = right s.outputs
  refine checkList_right.mpr ⟨s.outputs.map LogOutput.toDatum, rfl, ?_⟩
  rw [List.forall₂_map_left_iff, List.forall₂_same]
  exact fun o ho => checkOutput_toDatum (h o ho)

/-- A valid index section is read back from its own table, the quotient included. -/
theorem checkIndex_toDatum {s : IndexSettings} (h : s.Valid) : checkIndex s.toDatum = right s :=
  checkIndex_right.mpr ⟨⟨_, rfl, checkIndexFields_right.mpr
    ⟨checkOptionalText_text s.indexPath, checkRule_right.mpr ⟨rfl, decide_eq_true h.heap⟩,
      checkRule_right.mpr ⟨rfl, decide_eq_true h.threads⟩, rfl⟩⟩, h.memory⟩

/-- Valid limits are read back from their own table. -/
theorem checkLimits_toDatum {s : LimitSettings} (h : s.Valid) :
    checkLimits s.toDatum = right s :=
  checkLimits_right.mpr ⟨_, rfl, checkLimit_int h.byName, checkLimit_int h.byKind,
    checkLimit_int h.byParent, checkLimit_int h.advanced⟩

/-- **Valid settings pass the check as data**, and it does not change them. -/
theorem checkAll_toDatum {s : Settings} (h : s.Valid) : checkAll homes s.toDatum = right s :=
  checkSection_right.mpr ⟨_, rfl, checkSections_right.mpr
    ⟨checkLogging_toDatum h.logging, checkIndex_toDatum h.index, checkLimits_toDatum h.limits⟩⟩

end Settings

end CodeCatalog
