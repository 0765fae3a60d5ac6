/-
When a check is right.

A check is built of a few combinators, and each of them is right exactly if its parts are. So what a
section checks to can be read off its settings one by one: a setting that is there is checked, and
one that is not there has its default. A section that is right is one whose settings all are.
-/
import CodeCatalog.Settings.Check
import Mathlib.Tactic

set_option autoImplicit false

namespace CodeCatalog.Settings

open Check (right wrong)

namespace Check

variable {α β : Type} {c : Check α} {a : α} {b : β}

theorem right_inj {a' : α} : (right a : Check α) = right a' ↔ a = a' := by
  rw [right, right, Except.ok.injEq, Except.ok.injEq]

instance [DecidableEq α] (c : Check α) (a : α) : Decidable (c = right a) :=
  match c with
  | .error _ => .isFalse nofun
  | .ok (.error _) => .isFalse fun h => absurd (Except.ok.inj h) nofun
  | .ok (.ok _) => decidable_of_iff _ right_inj.symm

theorem wrong_ne_right {cause : Cause} {d : Datum} : (wrong cause d : Check α) ≠ right a := by
  intro h
  exact absurd (Except.ok.inj h) nofun

/-- A part is right from further out exactly if it is right. -/
theorem below_right {step : Step} : below step c = right a ↔ c = right a := by
  rcases c with f | ps | x
  · exact ⟨nofun, nofun⟩
  · exact ⟨fun h => absurd (Except.ok.inj h) nofun, fun h => absurd (Except.ok.inj h) nofun⟩
  · exact Iff.rfl

/-- A function and its argument are right together. -/
theorem also_right {f : Check (α → β)} : also f c = right b ↔
    ∃ g a, f = right g ∧ c = right a ∧ g a = b := by
  constructor
  · intro h
    -- a fault on either side comes first, then refusals; only two values give a value
    rcases f with f | ps | g
    · exact absurd h nofun
    · rcases c with f | qs | a
      · exact absurd h nofun
      · exact absurd (Except.ok.inj h) nofun
      · exact absurd (Except.ok.inj h) nofun
    · rcases c with f | qs | a
      · exact absurd h nofun
      · exact absurd (Except.ok.inj h) nofun
      · exact ⟨g, a, rfl, rfl, right_inj.mp h⟩
  · rintro ⟨g, a, rfl, rfl, rfl⟩
    rfl

/-- A function of several arguments is right together with each of them. -/
theorem also₂_right {γ : Type} {f : α → β → γ} {x : Check β} {r : γ} :
    also (also (right f) c) x = right r ↔ ∃ a b, c = right a ∧ x = right b ∧ f a b = r := by
  rw [also_right]
  constructor
  · rintro ⟨_, b, h, hb, rfl⟩
    obtain ⟨_, a, hf, ha, rfl⟩ := also_right.mp h
    obtain rfl := right_inj.mp hf
    exact ⟨a, b, ha, hb, rfl⟩
  · rintro ⟨a, b, ha, hb, rfl⟩
    exact ⟨f a, b, also_right.mpr ⟨f, a, rfl, ha, rfl⟩, hb, rfl⟩

/-- The same for a function of three arguments. -/
theorem also₃_right {γ δ : Type} {f : α → β → γ → δ} {x : Check β} {y : Check γ} {r : δ} :
    also (also (also (right f) c) x) y = right r ↔
      ∃ a b e, c = right a ∧ x = right b ∧ y = right e ∧ f a b e = r := by
  rw [also_right]
  constructor
  · rintro ⟨_, e, h, he, rfl⟩
    obtain ⟨a, b, ha, hb, rfl⟩ := also₂_right.mp h
    exact ⟨a, b, e, ha, hb, he, rfl⟩
  · rintro ⟨a, b, e, ha, hb, he, rfl⟩
    exact ⟨f a b, e, also₂_right.mpr ⟨a, b, ha, hb, rfl⟩, he, rfl⟩

/-- The same for a function of four arguments. -/
theorem also₄_right {γ δ ε : Type} {f : α → β → γ → δ → ε} {x : Check β} {y : Check γ}
    {z : Check δ} {r : ε} :
    also (also (also (also (right f) c) x) y) z = right r ↔
      ∃ a b e g, c = right a ∧ x = right b ∧ y = right e ∧ z = right g ∧ f a b e g = r := by
  rw [also_right]
  constructor
  · rintro ⟨_, g, h, hg, rfl⟩
    obtain ⟨a, b, e, ha, hb, he, rfl⟩ := also₃_right.mp h
    exact ⟨a, b, e, g, ha, hb, he, hg, rfl⟩
  · rintro ⟨a, b, e, g, ha, hb, he, hg, rfl⟩
    exact ⟨f a b e, g, also₃_right.mpr ⟨a, b, e, ha, hb, he, rfl⟩, hg, rfl⟩

/-- A check that goes on is right exactly if both its parts are. -/
theorem andThen_right {next : α → Check β} : andThen c next = right b ↔
    ∃ a, c = right a ∧ next a = right b := by
  constructor
  · intro h
    rcases c with f | ps | a
    · exact absurd h nofun
    · exact absurd (Except.ok.inj h) nofun
    · exact ⟨a, rfl, h⟩
  · rintro ⟨a, rfl, h⟩
    exact h

/-- Checks are right together exactly if each of them is. -/
theorem all_right {cs : List (Check α)} {as : List α} :
    all cs = right as ↔ List.Forall₂ (fun c a => c = right a) cs as := by
  induction cs generalizing as with
  | nil =>
    rw [all, right_inj, List.forall₂_nil_left_iff]
    exact eq_comm
  | cons c cs ih =>
    -- the list is put together from a head and a tail that are right
    rw [all, also_right, List.forall₂_cons_left_iff]
    constructor
    · rintro ⟨g, rest, hg, hrest, rfl⟩
      obtain ⟨f, a, hf, ha, rfl⟩ := also_right.mp hg
      obtain rfl := right_inj.mp hf
      exact ⟨a, rest, ha, ih.mp hrest, rfl⟩
    · rintro ⟨a, rest, ha, hrest, rfl⟩
      exact ⟨List.cons a, rest, also_right.mpr ⟨_, a, rfl, ha, rfl⟩, ih.mpr hrest, rfl⟩

end Check

open Check

/-! ## Settings of a section

A setting that is there has its own check, one that is not there has its default. Rules and lists
are checks that rest on another one. -/

variable {α : Type}

/-- What a setting counts as: its default if it is not there. -/
def checked (default : α) (check : Datum → Check α) : Option Datum → Check α
  | none => right default
  | some d => check d

/-- A setting that is there is checked, and one that is not there has its default. -/
theorem setting_right {entries : Entries} {name : String} {default a : α}
    {check : Datum → Check α} : setting entries name default check = right a ↔
      checked default check (entries.find? name) = right a := by
  rw [setting]
  rcases entries.find? name with _ | d
  · exact Iff.rfl
  · exact below_right

/-- A section is right if it is a table that is. -/
theorem checkSection_right {of : Section} {check : Entries → Check α} {d : Datum} {a : α} :
    checkSection of check d = right a ↔
      ∃ entries, d.bare = .table entries ∧ check entries = right a := by
  rw [checkSection]
  -- what is no table is refused, so a value needs the table that the check reads
  split
  · rename_i entries hd
    rw [hd]
    constructor
    · exact fun h => ⟨entries, rfl, h⟩
    · rintro ⟨entries', heq, h⟩
      rwa [Datum.table.inj heq]
  · rename_i hd
    constructor
    · exact fun h => absurd h wrong_ne_right
    · rintro ⟨entries, heq, -⟩
      exact absurd heq (hd entries)

/-- A value that keeps a rule. -/
theorem checkRule_right {check : Datum → Check α} {holds : α → Bool} {broken : α → Cause}
    {d : Datum} {a : α} : checkRule check holds broken d = right a ↔
      check d = right a ∧ holds a = true := by
  rw [checkRule, andThen_right]
  constructor
  · rintro ⟨a', ha', h⟩
    -- the rule is looked at only behind a right value
    split at h
    · rename_i hholds
      rw [← right_inj.mp h]
      exact ⟨ha', hholds⟩
    · exact absurd h wrong_ne_right
  · rintro ⟨ha, hholds⟩
    exact ⟨a, ha, if_pos hholds⟩

/-- The position of an item says nothing about whether it is right. -/
theorem forall₂_mapIdx {check : Datum → Check α} {items : List Datum} {as : List α}
    {numbered : Nat → Datum → Check α}
    (h : ∀ i d a, numbered i d = right a ↔ check d = right a) :
    List.Forall₂ (fun c a => c = right a) (items.mapIdx numbered) as ↔
      List.Forall₂ (fun d a => check d = right a) items as := by
  induction items generalizing numbered as with
  | nil => rw [List.mapIdx_nil, List.forall₂_nil_left_iff, List.forall₂_nil_left_iff]
  | cons d items ih =>
    rw [List.mapIdx_cons, List.forall₂_cons_left_iff, List.forall₂_cons_left_iff]
    simp only [h, ih fun i d a => h (i + 1) d a]

/-- A list is right if it is a list, a pair or a set whose items all are. -/
theorem checkList_right {check : Datum → Check α} {d : Datum} {as : List α} :
    checkList check d = right as ↔ ∃ items, itemsOf? d = some items ∧
      List.Forall₂ (fun item a => check item = right a) items as := by
  rw [checkList]
  rcases itemsOf? d with _ | items
  · exact ⟨fun h => absurd h wrong_ne_right, fun ⟨_, h, _⟩ => absurd h nofun⟩
  · simp only [all_right, forall₂_mapIdx fun _ _ _ => below_right, Option.some.injEq,
      exists_eq_left']

/-! ## Sections

What it means for each section to be right, with the settings named one by one. A section is a table
in any order, so nothing is said of where a setting stands. -/

variable {homes : Path.Homes} {d : Datum}

/-- An output is right if it is a table whose three settings are. -/
theorem checkOutput_right {o : LogOutput} : checkOutput homes d = right o ↔
    ∃ entries : Entries, d.bare = .table entries ∧
      checked .console (checkNamed [.json, .console] LogFormat.name) (entries.find? "format") =
        right o.format ∧
      checked "stderr" (checkDestination homes) (entries.find? "destination") =
        right o.destination ∧
      checked none checkOptionalLevel (entries.find? "level") = right o.level := by
  rw [checkOutput, checkSection_right]
  -- the parts of a table are checked on their own, and the whole is right if each of them is
  refine exists_congr fun entries => and_congr_right fun _ => ?_
  rw [also₃_right]
  simp only [setting_right]
  constructor
  · rintro ⟨_, _, _, hformat, hdestination, hlevel, rfl⟩
    exact ⟨hformat, hdestination, hlevel⟩
  · rintro ⟨hformat, hdestination, hlevel⟩
    exact ⟨_, _, _, hformat, hdestination, hlevel, rfl⟩

/-- The logging section is right if it is a table whose level and whose outputs are. -/
theorem checkLogging_right {s : LogSettings} : checkLogging homes d = right s ↔
    ∃ entries : Entries, d.bare = .table entries ∧
      checked .info checkLevel (entries.find? "level") = right s.level ∧
      checked [{}] (checkList (checkOutput homes)) (entries.find? "outputs") =
        right s.outputs := by
  rw [checkLogging, checkSection_right]
  refine exists_congr fun entries => and_congr_right fun _ => ?_
  rw [also₂_right]
  simp only [setting_right]
  constructor
  · rintro ⟨_, _, hlevel, houtputs, rfl⟩
    exact ⟨hlevel, houtputs⟩
  · rintro ⟨hlevel, houtputs⟩
    exact ⟨_, _, hlevel, houtputs, rfl⟩

/-- Each thread that writes has enough memory. -/
def ThreadMemory (s : IndexSettings) : Prop :=
  ∃ share, threadMegabytes s = .ok share ∧
    ∀ x ∈ share, x.lt (.ofInt minThreadMegabytes) = false

instance (s : IndexSettings) : Decidable (ThreadMemory s) :=
  match h : threadMegabytes s with
  | .error _ => .isFalse fun ⟨_, hshare, _⟩ => absurd (h.symm.trans hshare) nofun
  | .ok share => decidable_of_iff (∀ x ∈ share, x.lt (.ofInt minThreadMegabytes) = false)
      ⟨fun hshare => ⟨share, h, hshare⟩,
        fun ⟨_, hsame, hshare⟩ => Except.ok.inj (h.symm.trans hsame) ▸ hshare⟩

/-- The last rule changes no setting: it lets those through that leave each thread enough memory. -/
theorem checkThreadMemory_right {s s' : IndexSettings} :
    checkThreadMemory d s = right s' ↔ s = s' ∧ ThreadMemory s := by
  rw [checkThreadMemory, ThreadMemory]
  -- without threads there is no share to look at; with threads the share must not be below the
  -- least
  rcases threadMegabytes s with f | _ | share
  · exact ⟨nofun, fun ⟨_, _, h, _⟩ => absurd h nofun⟩
  · rw [right_inj]
    exact ⟨fun h => ⟨h, none, rfl, nofun⟩, And.left⟩
  · simp only
    split
    · rename_i hless
      refine ⟨fun h => absurd h wrong_ne_right, ?_⟩
      rintro ⟨-, _, h, hshare⟩
      obtain rfl := Except.ok.inj h
      exact absurd (hless.symm.trans (hshare share rfl)) nofun
    · rename_i hless
      rw [right_inj]
      refine ⟨fun h => ⟨h, some share, rfl, ?_⟩, And.left⟩
      intro x hx
      rw [← Option.some.inj hx]
      exact Bool.eq_false_iff.mpr hless

/-- The settings of the index, each by itself. -/
def checkIndexFields (entries : Entries) : Check IndexSettings :=
  let initial : IndexSettings := {}
  ((((right IndexSettings.mk).also
    (setting entries "index_path" initial.indexPath checkOptionalText)).also
    (setting entries "writer_heap_size_mb" initial.writerHeapMegabytes
      (checkRule checkWhole (minThreadMegabytes ≤ ·) .smallHeap))).also
    (setting entries "writer_num_threads" initial.writerThreads
      (checkRule checkWhole (0 ≤ ·) .negativeThreads))).also
    (setting entries "refresh_min_interval_sec" initial.refreshInterval checkReal)

/-- The settings of the index are checked by themselves first, and then together. -/
theorem checkIndex_eq (d : Datum) :
    checkIndex d = (checkSection .index checkIndexFields d).andThen (checkThreadMemory d) := rfl

/-- The settings of the index are right if each of the four is, for itself. -/
theorem checkIndexFields_right {entries : Entries} {s : IndexSettings} :
    checkIndexFields entries = right s ↔
      checked none checkOptionalText (entries.find? "index_path") = right s.indexPath ∧
      checked 128 (checkRule checkWhole (minThreadMegabytes ≤ ·) .smallHeap)
        (entries.find? "writer_heap_size_mb") = right s.writerHeapMegabytes ∧
      checked 0 (checkRule checkWhole (0 ≤ ·) .negativeThreads)
        (entries.find? "writer_num_threads") = right s.writerThreads ∧
      checked defaultInterval checkReal (entries.find? "refresh_min_interval_sec") =
        right s.refreshInterval := by
  -- four fields, each with its default
  rw [checkIndexFields, also₄_right]
  simp only [setting_right]
  constructor
  · rintro ⟨_, _, _, _, hpath, hheap, hthreads, hinterval, rfl⟩
    exact ⟨hpath, hheap, hthreads, hinterval⟩
  · rintro ⟨hpath, hheap, hthreads, hinterval⟩
    exact ⟨_, _, _, _, hpath, hheap, hthreads, hinterval, rfl⟩

/-- The index section is right if its settings are and leave each thread enough memory. -/
theorem checkIndex_right {s : IndexSettings} : checkIndex d = right s ↔
    (∃ entries : Entries, d.bare = .table entries ∧ checkIndexFields entries = right s) ∧
      ThreadMemory s := by
  rw [checkIndex_eq]
  simp only [andThen_right, checkThreadMemory_right, checkSection_right]
  constructor
  · rintro ⟨_, h, rfl, hmemory⟩
    exact ⟨h, hmemory⟩
  · rintro ⟨h, hmemory⟩
    exact ⟨s, h, rfl, hmemory⟩

/-- The limits are right if they are a table whose four settings are. -/
theorem checkLimits_right {s : LimitSettings} : checkLimits d = right s ↔
    ∃ entries : Entries, d.bare = .table entries ∧
      checked 100 checkLimit (entries.find? "name_search_default") = right s.byName ∧
      checked 1000 checkLimit (entries.find? "kind_search_default") = right s.byKind ∧
      checked 1000 checkLimit (entries.find? "parent_search_default") = right s.byParent ∧
      checked 100 checkLimit (entries.find? "advanced_search_default") = right s.advanced := by
  rw [checkLimits, checkSection_right]
  refine exists_congr fun entries => and_congr_right fun _ => ?_
  rw [also₄_right]
  simp only [setting_right]
  constructor
  · rintro ⟨_, _, _, _, hname, hkind, hparent, hadvanced, rfl⟩
    exact ⟨hname, hkind, hparent, hadvanced⟩
  · rintro ⟨hname, hkind, hparent, hadvanced⟩
    exact ⟨_, _, _, _, hname, hkind, hparent, hadvanced, rfl⟩

/-- The settings as a whole are right if their three sections are; one that is not there is the
built-in one. -/
theorem checkSections_right {entries : Entries} {s : Settings} :
    checkSections homes entries = right s ↔
      checked {} (checkLogging homes) (entries.find? "logging") = right s.logging ∧
      checked {} checkIndex (entries.find? "index") = right s.index ∧
      checked {} checkLimits (entries.find? "limits") = right s.limits := by
  rw [checkSections, also₃_right]
  simp only [setting_right]
  constructor
  · rintro ⟨_, _, _, hlogging, hindex, hlimits, rfl⟩
    exact ⟨hlogging, hindex, hlimits⟩
  · rintro ⟨hlogging, hindex, hlimits⟩
    exact ⟨_, _, _, hlogging, hindex, hlimits, rfl⟩

end CodeCatalog.Settings
