/-
How a check comes to its verdict.

A check of a single value is right, or wrong about that value (`Check.Decides`). Of the others a
fault may be the end, and it comes from one of two places: a destination whose home folder is
unknown, and a quotient of memory and threads that is no finite number
(`faultless_checkExactly`). Whatever a check refuses, it names a problem, and what it has found
wrong is a part of what was checked (`reports_checkExactly`).
-/
import CodeCatalog.Proofs.Settings.Sections

set_option autoImplicit false

namespace CodeCatalog.Settings

open Check (right wrong right_inj wrong_ne_right also below andThen)
open Datum

/-! ## Faults

A fault passes through every way of building a check, and is hidden by nothing but a check that
ended before it was reached. -/

namespace Check

variable {α β : Type} {c : Check α} {a : α}

/-- A check that no fault ends. -/
def Faultless (c : Check α) : Prop :=
  ∃ r, c = .ok r

theorem faultless_right (a : α) : Faultless (right a) := ⟨_, rfl⟩

theorem faultless_wrong (cause : Cause) (d : Datum) : Faultless (wrong cause d : Check α) :=
  ⟨_, rfl⟩

theorem not_faultless_error (f : Fault) : ¬ Faultless (.error f : Check α) :=
  fun ⟨_, h⟩ => absurd h nofun

/-- Where a check stands in a datum has no part in its faults. -/
theorem faultless_below {step : Step} : Faultless (below step c) ↔ Faultless c := by
  rcases c with f | r
  · exact iff_of_false (not_faultless_error f) (not_faultless_error f)
  · exact iff_of_true ⟨_, rfl⟩ ⟨_, rfl⟩

/-- A fault of either part is a fault of both together. -/
theorem faultless_also {f : Check (α → β)} : Faultless (also f c) ↔ Faultless f ∧ Faultless c := by
  rcases f with e | ps | g
  · exact iff_of_false (not_faultless_error e) fun h => not_faultless_error e h.1
  -- both parts are checked even if the first one is wrong, so its fault is never hidden
  all_goals rcases c with e | qs | a
  iterate 2
    · exact iff_of_false (not_faultless_error e) fun h => not_faultless_error e h.2
    · exact iff_of_true ⟨_, rfl⟩ ⟨⟨_, rfl⟩, _, rfl⟩
    · exact iff_of_true ⟨_, rfl⟩ ⟨⟨_, rfl⟩, _, rfl⟩

/-- A further check counts only where the first one is right. -/
theorem faultless_andThen {next : α → Check β} : Faultless (andThen c next) ↔
    Faultless c ∧ ∀ a, c = right a → Faultless (next a) := by
  rcases c with e | ps | a
  · exact iff_of_false (not_faultless_error e) fun h => not_faultless_error e h.1
  · exact iff_of_true ⟨_, rfl⟩ ⟨⟨_, rfl⟩, fun a h => absurd (Except.ok.inj h) nofun⟩
  · refine ⟨fun h => ⟨⟨_, rfl⟩, fun a' h' => right_inj.mp h' ▸ h⟩, fun h => h.2 a rfl⟩

/-- A row of checks is free of faults just if each of them is; a wrong one hides no other. -/
theorem faultless_all {cs : List (Check α)} : Faultless (all cs) ↔ ∀ c ∈ cs, Faultless c := by
  induction cs with
  | nil => exact iff_of_true (faultless_right []) (List.forall_mem_nil _)
  | cons c cs ih =>
    rw [all, faultless_also, faultless_also, ih, List.forall_mem_cons,
      and_iff_right (faultless_right _)]

end Check

open Check

variable {α : Type} {entries : Entries} {homes : Path.Homes} {d : Datum}

/-- A setting can only be ended by a fault if it is there, since a default is not checked. -/
theorem faultless_setting {name : String} {default : α} {check : Datum → Check α} :
    Faultless (setting entries name default check) ↔
      ∀ d, entries.find? name = some d → Faultless (check d) := by
  rw [setting]
  rcases entries.find? name with _ | d
  · exact iff_of_true (faultless_right _) (by rintro _ ⟨⟩)
  · rw [faultless_below]
    exact ⟨fun h d' hd' => Option.some.inj hd' ▸ h, fun h => h d rfl⟩

/-- A section is ended by a fault only of its settings; what is no table is refused. -/
theorem faultless_checkSection {of : Section} {check : Entries → Check α} :
    Faultless (checkSection of check d) ↔ ∀ es, d.bare = .table es → Faultless (check es) := by
  rw [checkSection]
  split
  · rename_i es hes
    exact ⟨fun h es' hes' => Datum.table.inj (hes.symm.trans hes') ▸ h, fun h => h es hes⟩
  · rename_i hother
    exact iff_of_true (faultless_wrong _ _) fun es hes => absurd hes (hother es)

/-- A list is ended by a fault only of its items; what is no list is refused. -/
theorem faultless_checkList {check : Datum → Check α} : Faultless (checkList check d) ↔
    ∀ items, itemsOf? d = some items → ∀ item ∈ items, Faultless (check item) := by
  rw [checkList]
  -- what is no list is refused outright; the items of a list are checked one by one
  rcases itemsOf? d with _ | items
  · exact iff_of_true (faultless_wrong _ _) (by rintro _ ⟨⟩)
  · have hitems : Faultless (Check.all (items.mapIdx fun i item => (check item).below (.item i))) ↔
        ∀ item ∈ items, Faultless (check item) := by
      rw [faultless_all]
      constructor
      · intro h item hitem
        obtain ⟨i, hi, rfl⟩ := List.mem_iff_getElem.mp hitem
        exact faultless_below.mp (h _ (List.mem_mapIdx.mpr ⟨i, hi, rfl⟩))
      · intro h c hc
        obtain ⟨i, hi, rfl⟩ := List.mem_mapIdx.mp hc
        exact faultless_below.mpr (h _ (List.getElem_mem hi))
    exact hitems.trans ⟨fun h items' heq => Option.some.inj heq ▸ h, fun h => h items rfl⟩

/-! ## Reports

What a check reports is about data that it was given. Each way of building a check passes the
reports of its parts on. -/

namespace Check

variable {β : Type} {c : Check α} {P : Datum → Prop}

/-- A check that names a problem where it refuses, and only finds data with a property wrong. -/
def Reports (P : Datum → Prop) (c : Check α) : Prop :=
  ∀ ps, c = .ok (.error ps) → ps ≠ [] ∧ ∀ p ∈ ps, P p.found

theorem reports_right (a : α) : Reports P (right a) :=
  fun _ h => absurd (Except.ok.inj h) nofun

theorem reports_error (f : Fault) : Reports P (.error f : Check α) :=
  fun _ h => absurd h nofun

/-- A single value that is refused is what is reported. -/
theorem reports_wrong (hd : P d) (cause : Cause) : Reports P (wrong cause d : Check α) := by
  intro ps h
  obtain rfl := Except.error.inj (Except.ok.inj h)
  exact ⟨nofun, List.forall_mem_singleton.mpr hd⟩

/-- A report keeps what it is about on its way out; only its path grows. -/
theorem Reports.below (h : Reports P c) (step : Step) : Reports P (below step c) := by
  intro ps hps
  rcases c with f | qs | a
  · exact absurd hps nofun
  · obtain rfl := Except.error.inj (Except.ok.inj hps)
    obtain ⟨hne, hfound⟩ := h qs rfl
    exact ⟨fun hnil => hne (List.map_eq_nil_iff.mp hnil),
      List.forall_mem_map.mpr fun p hp => hfound p hp⟩
  · exact absurd (Except.ok.inj hps) nofun

/-- Of two checks made together the reports are joined. -/
theorem Reports.also {f : Check (α → β)} (hf : Reports P f) (hc : Reports P c) :
    Reports P (also f c) := by
  intro ps hps
  -- a fault on either side is excluded by the reports being there at all; refusals of both sides
  -- are gathered
  rcases f with e | qs | g
  · exact absurd hps nofun
  · rcases c with e | rs | a
    · exact absurd hps nofun
    · obtain rfl := Except.error.inj (Except.ok.inj hps)
      obtain ⟨hne, hfound⟩ := hf qs rfl
      exact ⟨fun hnil => hne (List.append_eq_nil_iff.mp hnil).1,
        List.forall_mem_append.mpr ⟨hfound, (hc rs rfl).2⟩⟩
    · obtain rfl := Except.error.inj (Except.ok.inj hps)
      exact hf qs rfl
  · rcases c with e | rs | a
    · exact absurd hps nofun
    · obtain rfl := Except.error.inj (Except.ok.inj hps)
      exact hc rs rfl
    · exact absurd (Except.ok.inj hps) nofun

/-- Of two checks made one after the other one reports, if any does. -/
theorem Reports.andThen {next : α → Check β} (hc : Reports P c) (hnext : ∀ a, Reports P (next a)) :
    Reports P (andThen c next) := by
  rcases c with e | qs | a
  · exact reports_error e
  -- the further check is not made, so the problems are those of the first one
  · intro ps hps
    obtain rfl := Except.error.inj (Except.ok.inj hps)
    exact hc qs rfl
  · exact hnext a

/-- What a row of checks reports is reported by some of them. -/
theorem reports_all {cs : List (Check α)} (h : ∀ c ∈ cs, Reports P c) : Reports P (all cs) := by
  induction cs with
  | nil => exact reports_right []
  | cons c cs ih =>
    obtain ⟨hc, hcs⟩ := List.forall_mem_cons.mp h
    exact ((reports_right _).also hc).also (ih hcs)

/-! ### Single values

A check of a single value has no parts. It is right, or it reports that very value, so it has
neither faults nor reports about anything else. -/

/-- A check that is right, or wrong about the datum that was checked. -/
def Decides (d : Datum) (c : Check α) : Prop :=
  (∃ a, c = right a) ∨ ∃ cause, c = wrong cause d

theorem decides_right (a : α) : Decides d (right a) := .inl ⟨a, rfl⟩

theorem decides_wrong (cause : Cause) : Decides d (wrong cause d : Check α) := .inr ⟨cause, rfl⟩

/-- A check in several steps decides about a value if all of its steps are about that value. -/
theorem Decides.andThen {next : α → Check β} (hc : Decides d c) (hnext : ∀ a, Decides d (next a)) :
    Decides d (andThen c next) := by
  rcases hc with ⟨a, rfl⟩ | ⟨cause, rfl⟩
  · exact hnext a
  · exact decides_wrong cause

/-- A value that is decided about is decided about without a fault. -/
theorem Decides.faultless (h : Decides d c) : Faultless c := by
  rcases h with ⟨a, rfl⟩ | ⟨cause, rfl⟩
  · exact faultless_right a
  · exact faultless_wrong cause d

/-- All that is found wrong with a single value is found wrong with that value. -/
theorem Decides.reports (h : Decides d c) (hd : P d) : Reports P c := by
  rcases h with ⟨a, rfl⟩ | ⟨cause, rfl⟩
  · exact reports_right a
  · exact reports_wrong hd cause

end Check

/-- A rule behind a check refuses what the check was given, not what it was read as. -/
theorem decides_checkRule {check : Datum → Check α} {holds : α → Bool} {broken : α → Cause}
    (h : Decides d (check d)) : Decides d (checkRule check holds broken d) := by
  refine h.andThen fun a => ?_
  split
  · exact decides_right a
  · exact decides_wrong _

theorem decides_checkText (d : Datum) : Decides d (checkText d) := by
  rw [checkText.eq_def]
  split
  · exact decides_right _
  · split
    · exact decides_right _
    · exact decides_wrong _
  · exact decides_wrong _

theorem decides_checkOptionalText (d : Datum) : Decides d (checkOptionalText d) := by
  rw [checkOptionalText.eq_def]
  split
  · exact decides_right _
  · exact (decides_checkText d).andThen fun a => decides_right _

/-- A name is one of a list, or the datum is refused. -/
theorem decides_checkNamed (all : List α) (name : α → String) (d : Datum) :
    Decides d (checkNamed all name d) := by
  rw [checkNamed.eq_def]
  split
  · split
    · exact decides_right _
    · exact decides_wrong _
  · exact decides_wrong _

theorem decides_checkOptionalLevel (d : Datum) : Decides d (checkOptionalLevel d) := by
  rw [checkOptionalLevel.eq_def]
  split
  · exact decides_right _
  · exact (decides_checkNamed _ _ d).andThen fun a => decides_right _

/-- A text is taken for a whole number or refused, however its number may be written. -/
theorem decides_checkWholeText (s : String) (d : Datum) : Decides d (checkWholeText s d) := by
  rw [checkWholeText]
  split
  · exact decides_right _
  · exact decides_wrong _
  · exact decides_wrong _

/-- A number with a fraction is refused as a whole one, and so is one that is none. -/
theorem decides_checkWholeReal (x : Binary64) (d : Datum) : Decides d (checkWholeReal x d) := by
  rw [checkWholeReal]
  split
  · exact decides_wrong _
  · split
    · exact decides_wrong _
    · split
      · exact decides_right _
      · exact decides_wrong _

/-- Each kind of datum is a whole number, is read as one or is refused. -/
theorem decides_checkWhole (d : Datum) : Decides d (checkWhole d) := by
  rw [checkWhole.eq_def]
  split
  · exact decides_right _
  · exact decides_right _
  · exact decides_checkWholeReal _ _
  · exact decides_checkWholeText _ _
  · split
    · exact decides_checkWholeText _ _
    · exact decides_wrong _
  · exact decides_wrong _

/-- A text is taken for a number or refused. -/
theorem decides_checkRealText (s : String) (d : Datum) : Decides d (checkRealText s d) := by
  rw [checkRealText]
  split
  · exact decides_right _
  · exact decides_wrong _

/-- Each kind of datum is a number, is read as one or is refused. -/
theorem decides_checkReal (d : Datum) : Decides d (checkReal d) := by
  rw [checkReal.eq_def]
  split
  · exact decides_right _
  · exact decides_right _
  · dsimp only
    split
    · exact decides_right _
    · exact decides_wrong _
  · exact decides_checkRealText _ _
  · split
    · exact decides_checkRealText _ _
    · exact decides_wrong _
  · exact decides_wrong _

theorem decides_checkLimit (d : Datum) : Decides d (checkLimit d) :=
  decides_checkRule (decides_checkWhole d)

/-! ## Faults of sections

Two of the checks can end in a fault: that of a destination, where a home folder is asked for, and
that of the index, where numbers are divided. -/

/-- A text that is a destination has a home folder, if it needs one. -/
def HasHome (homes : Path.Homes) (s : String) : Prop :=
  ∃ path, (Path.ofText s).expandHome homes = .ok path

/-- A destination asks for a home folder only if it begins with one, and is a fault if that is
unknown. -/
theorem faultless_checkDestination : Faultless (checkDestination homes d) ↔
    ∀ s, checkText d = right s → HasHome homes s := by
  rw [checkDestination, faultless_andThen, and_iff_right (decides_checkText d).faultless]
  refine forall₂_congr fun s _ => ?_
  -- the streams need no home; a path is written out, and only a home that is not known is a fault
  rw [HasHome]
  split
  · rename_i hstream
    refine iff_of_true (faultless_right s) ?_
    rcases hstream with rfl | rfl
    · exact ⟨_, rfl⟩
    · exact ⟨_, rfl⟩
  · rcases (Path.ofText s).expandHome homes with f | path
    · exact iff_of_false (not_faultless_error f) (by rintro ⟨_, ⟨⟩⟩)
    · refine iff_of_true ?_ ⟨path, rfl⟩
      dsimp only
      split
      · exact faultless_right _
      · exact faultless_wrong _ _

/-- A text stands as the destination of an output. -/
def IsOutputTo (s : String) (output : Datum) : Prop :=
  ∃ es d, output.bare = .table es ∧ Entries.find? es "destination" = some d ∧
    checkText d = right s

/-- Of the settings of an output only the destination can be a fault. -/
theorem faultless_checkOutput {output : Datum} : Faultless (checkOutput homes output) ↔
    ∀ s, IsOutputTo s output → HasHome homes s := by
  rw [checkOutput, faultless_checkSection]
  -- the format and the level are decided, so that only the destination is left to fail
  have hparts : ∀ es : Entries, Faultless (((((right LogOutput.mk).also
        (setting es "format" .console (checkNamed [.json, .console] LogFormat.name))).also
        (setting es "destination" "stderr" (checkDestination homes))).also
        (setting es "level" none checkOptionalLevel))) ↔
      ∀ d, es.find? "destination" = some d → ∀ s, checkText d = right s → HasHome homes s := by
    intro es
    simp only [faultless_also, faultless_setting, faultless_checkDestination]
    refine ⟨fun h => h.1.2, fun h => ⟨⟨⟨faultless_right _, ?_⟩, h⟩, ?_⟩⟩
    · exact fun d _ => (decides_checkNamed _ _ d).faultless
    · exact fun d _ => (decides_checkOptionalLevel d).faultless
  constructor
  · rintro h s ⟨es, d, hes, hd, hs⟩
    exact (hparts es).mp (h es hes) d hd s hs
  · exact fun h es hes => (hparts es).mpr fun d hd s hs => h s ⟨es, d, hes, hd, hs⟩

/-- A text stands as a destination in a source. -/
def IsDestinationIn (entries : Entries) (s : String) : Prop :=
  ∃ outputs items output, settingIn entries "logging" "outputs" = some outputs ∧
    itemsOf? outputs = some items ∧ output ∈ items ∧ IsOutputTo s output

/-- A setting is found in a section just if the section is a table with an entry for it. -/
theorem settingIn_eq_some {section_ name : String} {v : Datum} :
    settingIn entries section_ name = some v ↔ ∃ d es, entries.find? section_ = some d ∧
      d.bare = .table es ∧ Entries.find? es name = some v := by
  rw [settingIn]
  constructor
  · intro h
    -- a section that is no table has no settings
    split at h
    · rename_i es hes
      obtain ⟨d, hd, hbare⟩ := Option.map_eq_some_iff.mp hes
      exact ⟨d, es, hd, hbare, h⟩
    · cases h
  · rintro ⟨d, es, hd, hes, hv⟩
    rw [hd, Option.map_some, hes]
    exact hv

/-- The logging section is free of faults just if the home folder of each destination in it is
known. -/
theorem faultless_checkLogging :
    (∀ d, entries.find? "logging" = some d → Faultless (checkLogging homes d)) ↔
      ∀ s, IsDestinationIn entries s → HasHome homes s := by
  -- down the four levels: the section, the list of outputs, each output, its destination
  have hlogging : ∀ d, Faultless (checkLogging homes d) ↔ ∀ es, d.bare = .table es →
      ∀ outputs, Entries.find? es "outputs" = some outputs → ∀ items,
        itemsOf? outputs = some items → ∀ output ∈ items, ∀ s, IsOutputTo s output →
          HasHome homes s := by
    intro d
    rw [checkLogging, faultless_checkSection]
    refine forall₂_congr fun es _ => ?_
    simp only [faultless_also, faultless_setting, faultless_checkList, faultless_checkOutput]
    refine ⟨And.right, fun h => ⟨⟨faultless_right _, ?_⟩, h⟩⟩
    exact fun d _ => (decides_checkNamed _ _ d).faultless
  constructor
  · rintro h s ⟨outputs, items, output, houtputs, hitems, houtput, hs⟩
    obtain ⟨d, es, hd, hes, hfound⟩ := settingIn_eq_some.mp houtputs
    exact (hlogging d).mp (h d hd) es hes outputs hfound items hitems output houtput s hs
  · intro h d hd
    refine (hlogging d).mpr fun es hes outputs hfound items hitems output houtput s hs => ?_
    exact h s ⟨outputs, items, output, settingIn_eq_some.mpr ⟨d, es, hd, hes, hfound⟩, hitems,
      houtput, hs⟩

/-- The settings of the index that a source has, each by its own check. -/
def IsIndexIn (homes : Path.Homes) (entries : Entries) (i : IndexSettings) : Prop :=
  ∀ x : Setting, x.section_ = "index" →
    x.checked homes (x.inSource entries) = right (x.of { index := i })

/-- The memory of each writing thread can be told. -/
def HasQuotient (i : IndexSettings) : Prop :=
  ∃ share, threadMegabytes i = .ok share

/-- The memory of a thread is a quotient, and a fault if the quotient is no finite number. -/
theorem faultless_checkThreadMemory (d : Datum) (i : IndexSettings) :
    Faultless (checkThreadMemory d i) ↔ HasQuotient i := by
  rw [checkThreadMemory, HasQuotient]
  rcases threadMegabytes i with f | _ | share
  · exact iff_of_false (not_faultless_error f) (by rintro ⟨_, ⟨⟩⟩)
  · exact iff_of_true (faultless_right i) ⟨none, rfl⟩
  · refine iff_of_true ?_ ⟨some share, rfl⟩
    dsimp only
    split
    · exact faultless_wrong _ _
    · exact faultless_right i

/-- The settings of the index are checked one by one without a fault; only what they give together
may be one. -/
theorem faultless_checkIndexFields (entries : Entries) : Faultless (checkIndexFields entries) := by
  rw [checkIndexFields]
  simp only [faultless_also, faultless_setting]
  refine ⟨⟨⟨⟨faultless_right _, fun d _ => ?_⟩, fun d _ => ?_⟩, fun d _ => ?_⟩, fun d _ => ?_⟩
  · exact (decides_checkOptionalText d).faultless
  · exact (decides_checkRule (decides_checkWhole d)).faultless
  · exact (decides_checkRule (decides_checkWhole d)).faultless
  · exact (decides_checkReal d).faultless

/-- What the settings of the index are, setting by setting: a setting that is there is checked, and
any other has its default. -/
theorem isIndexIn_iff {i : IndexSettings} : IsIndexIn homes entries i ↔
    checked none checkOptionalText (settingIn entries "index" "index_path") =
      right i.indexPath ∧
    checked 128 (checkRule checkWhole (minThreadMegabytes ≤ ·) .smallHeap)
      (settingIn entries "index" "writer_heap_size_mb") = right i.writerHeapMegabytes ∧
    checked 0 (checkRule checkWhole (0 ≤ ·) .negativeThreads)
      (settingIn entries "index" "writer_num_threads") = right i.writerThreads ∧
    checked defaultInterval checkReal (settingIn entries "index" "refresh_min_interval_sec") =
      right i.refreshInterval := by
  simp only [IsIndexIn, Setting.forall_iff, Setting.checked, Setting.inSource, Setting.section_,
    Setting.name, Setting.of, Setting.check, String.reduceEq, IsEmpty.forall_iff, forall_const,
    true_and, and_true]
  exact Iff.rfl

theorem hasQuotient_default : HasQuotient {} := ⟨none, rfl⟩

/-- Settings of the index that are not there are the built-in ones. -/
theorem eq_default_of_isIndexIn {i : IndexSettings}
    (hnone : ∀ name, settingIn entries "index" name = none) (hi : IsIndexIn homes entries i) :
    i = {} := by
  rw [isIndexIn_iff] at hi
  simp only [hnone, checked, right_inj] at hi
  obtain ⟨hpath, hheap, hthreads, hinterval⟩ := hi
  cases i
  rw [IndexSettings.mk.injEq]
  exact ⟨hpath.symm, hheap.symm, hthreads.symm, hinterval.symm⟩

/-- The index section is free of faults just if the quotient of its memory and its threads is a
finite number. -/
theorem faultless_checkIndex : (∀ d, entries.find? "index" = some d → Faultless (checkIndex d)) ↔
    ∀ i, IsIndexIn homes entries i → HasQuotient i := by
  have hfields : ∀ {d es}, entries.find? "index" = some d → d.bare = .table es → ∀ i,
      IsIndexIn homes entries i ↔ checkIndexFields es = right i := by
    intro d es hd hes i
    rw [isIndexIn_iff, checkIndexFields_right]
    simp only [settingIn_of_some hd hes]
  have hindex : ∀ d, Faultless (checkIndex d) ↔
      ∀ i es, d.bare = .table es → checkIndexFields es = right i → HasQuotient i := by
    intro d
    rw [checkIndex_eq, faultless_andThen, faultless_checkSection,
      and_iff_right fun es _ => faultless_checkIndexFields es]
    refine forall_congr' fun i => ?_
    rw [checkSection_right, faultless_checkThreadMemory]
    exact ⟨fun h es hes hi => h ⟨es, hes, hi⟩, fun h ⟨es, hes, hi⟩ => h es hes hi⟩
  constructor
  · intro h i hi
    -- without a table for the section nothing is divided, and the defaults are within bounds
    by_cases htable : ∃ d es, entries.find? "index" = some d ∧ d.bare = .table es
    · obtain ⟨d, es, hd, hes⟩ := htable
      exact (hindex d).mp (h d hd) i es hes ((hfields hd hes i).mp hi)
    · have hnone : ∀ name, settingIn entries "index" name = none := fun name => by
        rw [Option.eq_none_iff_forall_ne_some]
        intro v hv
        obtain ⟨d, es, hd, hes, -⟩ := settingIn_eq_some.mp hv
        exact htable ⟨d, es, hd, hes⟩
      exact eq_default_of_isIndexIn hnone hi ▸ hasQuotient_default
  · exact fun h d hd => (hindex d).mpr fun i es hes hi => h i ((hfields hd hes i).mpr hi)

/-- Limits are numbers, and no number is a fault. -/
theorem faultless_checkLimits (d : Datum) : Faultless (checkLimits d) := by
  rw [checkLimits, faultless_checkSection]
  intro es _
  simp only [faultless_also, faultless_setting]
  have hlimit : ∀ name d, Entries.find? es name = some d → Faultless (checkLimit d) :=
    fun _ d _ => (decides_checkLimit d).faultless
  exact ⟨⟨⟨⟨faultless_right _, hlimit _⟩, hlimit _⟩, hlimit _⟩, hlimit _⟩

/-- **The faults of a check**: a destination needs a home folder that is unknown, or the memory of
the writing threads is no finite number. -/
theorem faultless_checkExactly : Faultless (checkExactly homes entries) ↔
    (∀ s, IsDestinationIn entries s → HasHome homes s) ∧
      ∀ i, IsIndexIn homes entries i → HasQuotient i := by
  rw [checkExactly, checkSections]
  simp only [faultless_also, faultless_setting, and_iff_right (faultless_right _)]
  rw [faultless_checkLogging, faultless_checkIndex]
  refine ⟨fun h => h.1.1, fun h => ⟨⟨h, fun d _ => faultless_checkLimits d⟩, _, rfl⟩⟩

/-! ## Reports of sections

A section is checked by its settings, so what is reported is a part of it. `Hereditary` is a
property that passes from a datum to its parts. -/

/-- A property that the parts of a datum have with it. -/
structure Hereditary (P : Datum → Prop) : Prop where
  entry : ∀ {d es}, P d → d.bare = .table es → ∀ e ∈ es, P e.2
  item : ∀ {d items}, P d → itemsOf? d = some items → ∀ item ∈ items, P item

variable {P : Datum → Prop}

/-- A setting reports what its check reports, on a value that is there. -/
theorem reports_setting {name : String} {default : α} {check : Datum → Check α}
    (h : ∀ d, entries.find? name = some d → Reports P (check d)) :
    Reports P (setting entries name default check) := by
  rw [setting]
  rcases hd : entries.find? name with _ | d
  · exact reports_right _
  · exact (h d hd).below _

/-- What is no table is reported itself; a table reports what is wrong in it. -/
theorem reports_checkSection (hd : P d) {of : Section} {check : Entries → Check α}
    (h : ∀ es, d.bare = .table es → Reports P (check es)) :
    Reports P (checkSection of check d) := by
  rw [checkSection]
  split
  · rename_i es hes
    exact h es hes
  · exact reports_wrong hd _

/-- What is no list is reported itself; a list reports what is wrong with its items. -/
theorem reports_checkList (hd : P d) {check : Datum → Check α}
    (h : ∀ items, itemsOf? d = some items → ∀ item ∈ items, Reports P (check item)) :
    Reports P (checkList check d) := by
  rw [checkList]
  split
  · rename_i items hitems
    refine reports_all fun c hc => ?_
    obtain ⟨i, hi, rfl⟩ := List.mem_mapIdx.mp hc
    exact (h items hitems _ (List.getElem_mem hi)).below _
  · exact reports_wrong hd _

/-- A destination that is refused is what is reported. -/
theorem reports_checkDestination (hd : P d) : Reports P (checkDestination homes d) := by
  refine ((decides_checkText d).reports hd).andThen fun s => ?_
  split
  · exact reports_right _
  · split
    · exact reports_error _
    · split
      · exact reports_right _
      · exact reports_wrong hd _

/-- What is wrong with an output is the output or one of its settings. -/
theorem reports_checkOutput (hP : Hereditary P) (hd : P d) : Reports P (checkOutput homes d) := by
  refine reports_checkSection hd fun es hes => ?_
  have hentry : ∀ {name d'}, Entries.find? es name = some d' → P d' :=
    fun h => hP.entry hd hes _ (Entries.mem_of_find? h)
  refine ((Reports.also (reports_right _) ?_).also ?_).also ?_ <;>
    refine reports_setting fun d' hd' => ?_
  · exact (decides_checkNamed _ _ d').reports (hentry hd')
  · exact reports_checkDestination (hentry hd')
  · exact (decides_checkOptionalLevel d').reports (hentry hd')

/-- What is wrong with the logging section is a part of it, however deep. -/
theorem reports_checkLogging (hP : Hereditary P) (hd : P d) :
    Reports P (checkLogging homes d) := by
  refine reports_checkSection hd fun es hes => ?_
  have hentry : ∀ {name d'}, Entries.find? es name = some d' → P d' :=
    fun h => hP.entry hd hes _ (Entries.mem_of_find? h)
  refine (Reports.also (reports_right _) ?_).also ?_ <;> refine reports_setting fun d' hd' => ?_
  · exact (decides_checkNamed _ _ d').reports (hentry hd')
  · exact reports_checkList (hentry hd') fun items hitems item hitem =>
      reports_checkOutput hP (hP.item (hentry hd') hitems item hitem)

/-- Too little memory for a thread is reported of the section, since no single setting is to blame.
-/
theorem reports_checkThreadMemory (hd : P d) (i : IndexSettings) :
    Reports P (checkThreadMemory d i) := by
  rw [checkThreadMemory]
  split
  · exact reports_error _
  · exact reports_right i
  · split
    · exact reports_wrong hd _
    · exact reports_right i

/-- What is wrong with the index section is the section or one of its settings. -/
theorem reports_checkIndex (hP : Hereditary P) (hd : P d) : Reports P (checkIndex d) := by
  rw [checkIndex_eq]
  refine (reports_checkSection hd fun es hes => ?_).andThen (reports_checkThreadMemory hd)
  have hentry : ∀ {name d'}, Entries.find? es name = some d' → P d' :=
    fun h => hP.entry hd hes _ (Entries.mem_of_find? h)
  refine (((Reports.also (reports_right _) ?_).also ?_).also ?_).also ?_ <;>
    refine reports_setting fun d' hd' => ?_
  · exact (decides_checkOptionalText d').reports (hentry hd')
  · exact (decides_checkRule (decides_checkWhole d')).reports (hentry hd')
  · exact (decides_checkRule (decides_checkWhole d')).reports (hentry hd')
  · exact (decides_checkReal d').reports (hentry hd')

/-- What is wrong with the limits is the section or one of its settings. -/
theorem reports_checkLimits (hP : Hereditary P) (hd : P d) : Reports P (checkLimits d) := by
  refine reports_checkSection hd fun es hes => ?_
  have hlimit : ∀ name default, Reports P (setting es name default checkLimit) := fun _ _ =>
    reports_setting fun d' hd' =>
      (decides_checkLimit d').reports (hP.entry hd hes _ (Entries.mem_of_find? hd'))
  exact ((((reports_right _).also (hlimit _ _)).also (hlimit _ _)).also (hlimit _ _)).also
    (hlimit _ _)

/-- A key that no section has is reported with its value. -/
theorem reports_checkNothingElse (h : ∀ e ∈ entries, P e.2) :
    Reports P (checkNothingElse entries) := by
  intro ps hps
  rw [checkNothingElse] at hps
  split at hps
  · cases hps
  -- what was found is what has no place among the sections
  · rename_i hsome
    obtain rfl := Except.error.inj (Except.ok.inj hps)
    refine ⟨fun hnil => hsome (List.isEmpty_iff.mpr hnil), fun p hp => ?_⟩
    obtain ⟨⟨key, d⟩, he, hproblem⟩ := List.mem_filterMap.mp hp
    cases key with
    | text name =>
      obtain ⟨-, hproblem⟩ := Option.ite_none_left_eq_some.mp hproblem
      exact Option.some.inj hproblem ▸ h _ he
    | _ => cases hproblem

/-- **What a check refuses, it names**, and it finds nothing wrong but parts of the entries. -/
theorem reports_checkExactly (hP : Hereditary P) (h : ∀ e ∈ entries, P e.2) :
    Reports P (checkExactly homes entries) := by
  have hentry : ∀ {name d}, entries.find? name = some d → P d :=
    fun h' => h _ (Entries.mem_of_find? h')
  have hsections : Reports P (checkSections homes entries) := by
    refine ((Reports.also (reports_right _) ?_).also ?_).also ?_ <;>
      refine reports_setting fun d hd => ?_
    · exact reports_checkLogging hP (hentry hd)
    · exact reports_checkIndex hP (hentry hd)
    · exact reports_checkLimits hP (hentry hd)
  exact ((reports_right _).also hsections).also (reports_checkNothingElse h)

end CodeCatalog.Settings
