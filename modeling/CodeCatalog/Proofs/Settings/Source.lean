/-
Sources of settings, one laid over another.

A source is a table whose sections are tables. Laid over another one it decides setting by setting:
what it has counts, and what it does not have is looked up in the other one
(`settingIn_mergeOver`). A section that both have is laid over setting by setting too, so a setting
of the lower source is not lost because the upper one has another setting of the same section.
-/
import CodeCatalog.Proofs.Settings.Merge
import CodeCatalog.Settings.Variables

set_option autoImplicit false

namespace CodeCatalog.Settings

open Datum

variable {entries base top : Entries} {section_ name : String}

/-- The settings of a section: no key stands twice, and labels stand on lists and tables alone. -/
structure IsSection (es : Entries) : Prop where
  keys : es.Distinct
  values : ∀ e ∈ es, e.2.Tied

/-- A source of settings: no key stands twice, and each section in it is a table. -/
structure IsSource (entries : Entries) : Prop where
  keys : entries.Distinct
  sections : ∀ name ∈ sectionNames, ∀ d, entries.find? name = some d →
    ∃ es, d.bare = .table es ∧ IsSection es

/-- A source has nothing beside the sections. -/
def HasOnlySections (entries : Entries) : Prop :=
  ∀ key, entries.has key = true → ∃ name ∈ sectionNames, key = .text name

/-- A setting in a source. -/
def settingIn (entries : Entries) (section_ name : String) : Option Datum :=
  match (entries.find? section_).map bare with
  | some (.table es) => Entries.find? es name
  | _ => none

/-- Where a section is not there, none of its settings is. -/
theorem settingIn_of_none (h : entries.find? section_ = none) :
    settingIn entries section_ name = none := by
  rw [settingIn, h]
  rfl

theorem settingIn_of_some {d : Datum} {es : Entries} (h : entries.find? section_ = some d)
    (hd : d.bare = .table es) : settingIn entries section_ name = es.find? name := by
  rw [settingIn, h, Option.map_some, hd]

/-! ## Over each other

In two sources laid over each other a setting is that of the upper one, if it has it, laid over that
of the lower one; and sources stay sources. -/

/-- What holds of the lower values, and of the upper ones over whatever there is, holds of all. -/
theorem forall_mergeOver {P : Datum → Prop} (hbase : ∀ e ∈ base, P e.2)
    (htop : ∀ e ∈ top, ∀ old, P (laid old e.2)) : ∀ e ∈ mergeOver base top, P e.2 := by
  induction top generalizing base with
  | nil => exact hbase
  | cons e top ih =>
    obtain ⟨hfirst, hrest⟩ := List.forall_mem_cons.mp htop
    rw [mergeOver_cons]
    refine ih (fun e' he' => ?_) hrest
    rcases Entries.mem_put he' with he' | ⟨hvalue, -⟩
    · exact hbase e' he'
    · exact hvalue ▸ hfirst _

/-- One section laid over another is a section again. -/
theorem IsSection.mergeOver (hbase : IsSection base) (htop : IsSection top) :
    IsSection (mergeOver base top) where
  keys := distinct_mergeOver hbase.keys top
  values := forall_mergeOver hbase.values fun e he old => by
    cases old with
    | none => exact htop.values e he
    | some old => exact (htop.values e he).merge old

/-- A section in two sources is in both a table, and the one is laid over the other. -/
theorem find?_mergeOver_section (hbase : IsSource base) (htop : IsSource top)
    (hsection : section_ ∈ sectionNames) {d old : Datum} (hd : top.find? section_ = some d)
    (hold : base.find? section_ = some old) :
    ∃ es es', old.bare = .table es ∧ d.bare = .table es' ∧ IsSection es ∧ IsSection es' ∧
      Entries.find? (mergeOver base top) section_ = some (.table (mergeOver es es')) := by
  obtain ⟨es, hes, hlower⟩ := hbase.sections section_ hsection old hold
  obtain ⟨es', hes', hupper⟩ := htop.sections section_ hsection d hd
  refine ⟨es, es', hes, hes', hlower, hupper, ?_⟩
  rw [Entries.find?] at hd hold
  rw [Entries.find?, get?_mergeOver base htop.keys, hd, hold]
  exact congrArg some (merge_tables hes hes')

/-- What the upper source does not have is as below. -/
theorem find?_mergeOver_of_top_none (htop : top.Distinct) (h : top.find? name = none) :
    Entries.find? (mergeOver base top) name = base.find? name := by
  rw [Entries.find?] at h
  rw [Entries.find?, get?_mergeOver base htop, h]
  rfl

/-- What only the upper source has is as there, even its labels. -/
theorem find?_mergeOver_of_base_none (htop : top.Distinct) (h : base.find? name = none) :
    Entries.find? (mergeOver base top) name = top.find? name := by
  rw [Entries.find?] at h
  rw [Entries.find?, get?_mergeOver base htop, h, Entries.find?]
  cases Entries.get? top (.text name) <;> rfl

/-- **A source over another one is a source.** -/
theorem IsSource.mergeOver (hbase : IsSource base) (htop : IsSource top) :
    IsSource (mergeOver base top) where
  keys := distinct_mergeOver hbase.keys top
  sections := fun section_ hsection d hd => by
    -- a section stands in one of the two sources, or in both, and then its tables are merged
    cases hlower : base.find? section_ with
    | none =>
      rw [find?_mergeOver_of_base_none htop.keys hlower] at hd
      exact htop.sections section_ hsection d hd
    | some old =>
      cases hupper : top.find? section_ with
      | none =>
        rw [find?_mergeOver_of_top_none htop.keys hupper] at hd
        exact hbase.sections section_ hsection d hd
      | some d' =>
        obtain ⟨es, es', -, -, hes, hes', hfound⟩ :=
          find?_mergeOver_section hbase htop hsection hupper hlower
        rw [hfound] at hd
        exact ⟨_, (Option.some.inj hd) ▸ rfl, hes.mergeOver hes'⟩

/-- **A setting of two sources** is that of the upper one, laid over that of the lower one; without
one in the upper one it is that of the lower one. -/
theorem settingIn_mergeOver (hbase : IsSource base) (htop : IsSource top)
    (hsection : section_ ∈ sectionNames) (name : String) :
    settingIn (mergeOver base top) section_ name = match settingIn top section_ name with
      | some v => some (laid (settingIn base section_ name) v)
      | none => settingIn base section_ name := by
  -- where the section stands in one source only, the setting is found there or nowhere
  cases hupper : top.find? section_ with
  | none =>
    rw [settingIn_of_none hupper, settingIn, find?_mergeOver_of_top_none htop.keys hupper]
    rfl
  | some d =>
    cases hlower : base.find? section_ with
    | none =>
      rw [settingIn_of_none hlower, settingIn, find?_mergeOver_of_base_none htop.keys hlower,
        ← settingIn]
      cases settingIn top section_ name <;> rfl
    | some old =>
      obtain ⟨es, es', hes, hes', -, hsettings, hfound⟩ :=
        find?_mergeOver_section hbase htop hsection hupper hlower
      rw [settingIn_of_some hfound rfl, settingIn_of_some hupper hes',
        settingIn_of_some hlower hes, Entries.find?, get?_mergeOver es hsettings.keys]
      rfl

/-- Two sources have only sections exactly if the one over the other has. -/
theorem hasOnlySections_mergeOver :
    HasOnlySections (mergeOver base top) ↔ HasOnlySections base ∧ HasOnlySections top := by
  simp only [HasOnlySections, has_mergeOver, Bool.or_eq_true, or_imp, forall_and]

end CodeCatalog.Settings
