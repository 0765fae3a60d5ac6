/-
Who may open a path.

Handles exclude each other by their resolved paths: an opening claims the path and is refused if it
is claimed, a closing gives it back. So the claimed paths should be those of the open handles, with one
handle to a path. Every deed either leaves this alone, opens a handle on a free path, or closes one
(`Moves`). There is one exception: an opening that fails by a fault for which it has no report keeps
the path claimed, with nobody to give it back. The path has strayed, and can never be opened again.
`Excludes` is what every step keeps, with the strayed paths set apart.
-/
import CodeCatalog.Proofs.Search.Activity
import CodeCatalog.Proofs.Search.Session

set_option autoImplicit false

namespace CodeCatalog.Search

open Act Desk

/-! ## What a deed does to handle and claims

A deed opens its handle, closes it, leaves it, or leaves a claim behind. There is one case for each,
and only an opening that fails in an unforeseen way is of the last sort. -/

/-- A fault got out of an opening. -/
def Deed.Strays (deed : Deed) (answer : Except Failure Answer) : Prop :=
  (∃ faults, deed = .openIndex faults) ∧ ∃ f, answer = .error (.fault f)

theorem Deed.not_strays_ok (deed : Deed) (a : Answer) : ¬ deed.Strays (.ok a) := by
  rintro ⟨-, f, hf⟩
  exact absurd hf nofun

/-- What is refused with an error of the catalogue gives its claim back. -/
theorem Deed.not_strays_catalog (deed : Deed) (e : CatalogError) :
    ¬ deed.Strays (.error (.catalog e)) := by
  rintro ⟨-, f, hf⟩
  exact absurd hf nofun

/-- No other deed than an opening can leave a claim behind. -/
theorem Deed.not_strays {deed : Deed} (h : ∀ faults, deed ≠ .openIndex faults)
    (r : Except Failure Answer) : ¬ deed.Strays r := by
  rintro ⟨⟨faults, hfaults⟩, -⟩
  exact h faults hfaults

namespace Desk

variable {d t : Desk} {deed : Deed}

/-- A handle is open or not, has this resolved path, and these paths are claimed. -/
structure Standing (isOpen : Bool) (key : String) (claimed : List String) (d : Desk) : Prop where
  isOpen : d.index.isOpen = isOpen
  key : d.index.key = key
  claimed : d.shelf.claimed = claimed

/-- **What a deed does to a handle and to the claimed paths.** -/
inductive Moves (deed : Deed) (d : Desk) : Except Failure Answer × Desk → Prop
  /-- A handle that is not open may be another one then. -/
  | stays {r : Except Failure Answer} {t : Desk} (h : ¬ deed.Strays r)
      (hopen : t.index.isOpen = d.index.isOpen)
      (hkey : d.index.isOpen = true → t.index.key = d.index.key)
      (hclaimed : t.shelf.claimed = d.shelf.claimed) : Moves deed d (r, t)
  | opens {r : Except Failure Answer} {t : Desk} (h : ¬ deed.Strays r)
      (hclosed : d.index.isOpen = false) (hfree : d.index.key ∉ d.shelf.claimed)
      (ht : Standing true d.index.key (d.index.key :: d.shelf.claimed) t) : Moves deed d (r, t)
  | closes {r : Except Failure Answer} {t : Desk} (h : ¬ deed.Strays r)
      (hopen : d.index.isOpen = true)
      (ht : Standing false d.index.key (d.shelf.claimed.filter (· ≠ d.index.key)) t) :
      Moves deed d (r, t)
  | strays {r : Except Failure Answer} {t : Desk} (h : deed.Strays r)
      (hclosed : d.index.isOpen = false) (hfree : d.index.key ∉ d.shelf.claimed)
      (ht : Standing false d.index.key (d.index.key :: d.shelf.claimed) t) : Moves deed d (r, t)

section Standing

variable {isOpen : Bool} {key : String} {claimed : List String}

/-- Whatever is done to the engine, the handle and the claims stand. -/
theorem keeps_standing_onEngine {α : Type} {absent : Failure} {a : Act (Watched Engine) α} :
    Keeps (Standing isOpen key claimed) (onEngine absent a) := by
  refine keeps_onEngine_of fun d s hd hs => ?_
  refine ⟨fun _ => True, fun _ _ => trivial, trivial, fun w _ => ⟨?_, hd.key, hd.claimed⟩⟩
  rw [← hd.isOpen, Index.isOpen_of_session hs]
  rfl

/-- Reading opens and closes nothing and claims nothing. -/
theorem steady_standing : Steady (Standing isOpen key claimed) where
  log _ _ h := ⟨h.isOpen, h.key, h.claimed⟩
  refresh _ _ := keeps_standing_onEngine
  maybeRefresh _ _ _ := keeps_standing_onEngine
  look _ _ := keeps_standing_onEngine

/-- Neither does writing, however it ends. -/
theorem sturdy_standing : Sturdy (Standing isOpen key claimed) where
  log _ _ h := ⟨h.isOpen, h.key, h.claimed⟩
  call _ _ _ _ := keeps_standing_onEngine
  commit operation := by
    refine keeps_standing_onEngine.bind fun _ => Keeps.modify fun d hd => ?_
    rcases d.index.session with _ | s
    · exact hd
    · exact ⟨hd.isOpen, hd.key, hd.claimed⟩
  maybeRefresh _ _ _ := keeps_standing_onEngine

end Standing

/-- An opening opens and claims, gives its claim back, or leaves it behind. -/
theorem moves_openStruck (faults : OpenStep → Option Fault) :
    Moves (.openIndex faults) d ((Deed.openIndex faults).action.outcome d) := by
  rw [Deed.action, outcome_bind]
  rcases hs : d.index.session with _ | s
  · have hclosed := Index.isOpen_eq_false.mpr hs
    by_cases hclaimed : d.index.key ∈ d.shelf.claimed
    · rw [outcome_openStruck_claimed faults hs hclaimed]
      exact .stays (Deed.not_strays_catalog _ _) rfl (fun _ => rfl) rfl
    · have h := outcomes_openStruck faults hs hclaimed d ⟨rfl, rfl⟩
      rcases hr : (openStruck faults).outcome d with ⟨e | _, t⟩ <;> rw [hr] at h
      · obtain ⟨hindex, ⟨⟨r, rfl⟩, hfiltered⟩ | ⟨⟨f, rfl⟩, hkept⟩⟩ := h
        · -- the path that was claimed is given up, and it was not claimed before
          have hsame : (d.index.key :: d.shelf.claimed).filter (· ≠ d.index.key) =
              d.shelf.claimed := by
            rw [List.filter_cons_of_neg (by simp), List.filter_eq_self]
            intro k hk
            exact decide_eq_true fun heq => hclaimed (heq ▸ hk)
          rw [hsame] at hfiltered
          exact .stays (Deed.not_strays_catalog _ _) (by rw [hindex]) (fun _ => by rw [hindex])
            hfiltered
        · refine .strays ⟨⟨faults, rfl⟩, f, rfl⟩ hclosed hclaimed ⟨?_, by rw [hindex], hkept⟩
          rw [hindex, hclosed]
      · obtain ⟨place, c, hindex, hkept⟩ := h
        exact .opens (Deed.not_strays_ok _ _) hclosed hclaimed
          ⟨by rw [hindex]; rfl, by rw [hindex], hkept⟩
  · rw [outcome_openStruck_open faults (Index.isOpen_of_session hs)]
    exact .stays (Deed.not_strays_ok _ _) rfl (fun _ => rfl) rfl

/-- All deeds that close leave what closing leaves. -/
theorem snd_outcome_closes (hcloses : deed.closes = true) (d : Desk) :
    (deed.action.outcome d).2 = (closeIndex.outcome d).2 := by
  -- what comes behind the closing looks at the answer alone
  have hleaves : ∀ f : Unit → IndexAct Answer, (∀ x s, ((f x).outcome s).2 = s) →
      ((closeIndex >>= f).outcome d).2 = (closeIndex.outcome d).2 := by
    intro f hf
    rw [outcome_bind]
    rcases closeIndex.outcome d with ⟨e | x, t⟩
    · rfl
    · exact hf x t
  cases deed with
  | closeIndex => exact hleaves (fun _ => pure .done) fun _ _ => rfl
  | leave raised => exact hleaves (fun _ => throw raised) fun _ _ => rfl
  | _ => exact absurd hcloses nofun

/-- Whatever a closing comes to, and whatever is raised after it, it closes the handle. -/
theorem standing_closes (hcloses : deed.closes = true) (hopen : d.index.isOpen = true) :
    Standing false d.index.key (d.shelf.claimed.filter (· ≠ d.index.key))
      (deed.action.outcome d).2 := by
  obtain ⟨s, hs⟩ := Option.isSome_iff_exists.mp hopen
  obtain ⟨hshelf, hindex⟩ := stands_closeIndex (amid_of_session hs)
  rw [snd_outcome_closes hcloses]
  refine ⟨?_, ?_, ?_⟩
  · rw [hindex]
    rfl
  · rw [hindex]
  · rw [hshelf]

/-- A deed that closes gives the claim back with the session. -/
theorem moves_closes (hcloses : deed.closes = true) : Moves deed d (deed.action.outcome d) := by
  have hdeed : ∀ faults, deed ≠ .openIndex faults := by
    rintro faults rfl
    exact absurd hcloses nofun
  have hsame := snd_outcome_closes hcloses d
  have hstands := standing_closes (d := d) hcloses
  rcases hr : deed.action.outcome d with ⟨r, t⟩
  rw [hr] at hsame hstands
  -- closing what is closed changes nothing
  rcases hopen : d.index.isOpen
  · rw [outcome_closeIndex_closed (Index.isOpen_eq_false.mp hopen)] at hsame
    obtain rfl : t = d := hsame
    exact .stays (Deed.not_strays hdeed r) rfl (fun _ => rfl) rfl
  · exact .closes (Deed.not_strays hdeed r) hopen (hstands hopen)

/-- A deed that keeps whatever stands moves nothing. -/
theorem moves_of_keeps (hdeed : ∀ faults, deed ≠ .openIndex faults)
    (h : ∀ isOpen key claimed, Keeps (Standing isOpen key claimed) deed.action) :
    Moves deed d (deed.action.outcome d) := by
  have hd := h _ _ _ d ⟨rfl, rfl, rfl⟩
  exact .stays (Deed.not_strays hdeed _) hd.isOpen (fun _ => hd.key) hd.claimed

/-- A write moves neither the handle nor the claims. -/
theorem keeps_standing_write (w : Write) {isOpen : Bool} {key : String} {claimed : List String} :
    Keeps (Standing isOpen key claimed) w.action := by
  have hsturdy : Sturdy (Standing isOpen key claimed) := sturdy_standing
  rcases w with es | e | id
  · exact (hsturdy.buildIndex es).bind fun _ => Keeps.pure _
  · exact (hsturdy.updateElement e).bind fun _ => Keeps.pure _
  · exact (hsturdy.deleteElement id).bind fun _ => Keeps.pure _

/-- **The deeds.** -/
theorem moves_action (deed : Deed) (d : Desk) : Moves deed d (deed.action.outcome d) := by
  cases deed with
  | make path heap threads interval =>
    -- a handle is replaced where it is not open, and then it is not open still
    rw [Deed.action, outcome_bind, outcome_modify]
    dsimp only
    rw [outcome_pure]
    rcases hopen : d.index.isOpen
    · exact .stays (Deed.not_strays_ok _ _) hopen.symm (fun h => absurd (hopen ▸ h) nofun) rfl
    · exact .stays (Deed.not_strays_ok _ _) rfl (fun _ => rfl) rfl
  | openIndex faults => exact moves_openStruck faults
  | closeIndex => exact moves_closes rfl
  | leave raised => exact moves_closes rfl
  | write w => exact moves_of_keeps nofun fun _ _ _ => keeps_standing_write w
  | refresh =>
    exact moves_of_keeps nofun fun _ _ _ => steady_standing.refreshNow.bind fun _ => Keeps.pure _
  | read r =>
    exact moves_of_keeps nofun fun _ _ _ => (steady_standing.read r).bind fun _ => Keeps.pure _
  | count =>
    exact moves_of_keeps nofun fun _ _ _ => steady_standing.docCount.bind fun _ => Keeps.pure _
  | tell script =>
    refine moves_of_keeps nofun fun _ _ _ => (Keeps.modify fun d hd => ?_).bind fun _ => Keeps.pure _
    refine ⟨?_, hd.key, hd.claimed⟩
    rw [← hd.isOpen]
    unfold Index.isOpen
    rw [Option.isSome_map]
  | world shelf => exact moves_of_keeps nofun fun _ _ _ d hd => ⟨hd.isOpen, hd.key, hd.claimed⟩

end Desk

/-! ## The registry

Claims are a list of paths that all handles share. The invariant is that the claimed paths are those
on which a handle is open, one for each, and those that were left behind. -/

variable {ι : Type} [DecidableEq ι]

namespace Process

variable {p : Process ι} {i j : ι} {k : String} {strayed : String → Prop}

/-- A handle is open on a resolved path. -/
def OpenOn (p : Process ι) (k : String) (i : ι) : Prop :=
  (p.handle i).isOpen = true ∧ (p.handle i).key = k

/-- A fault gets out of an opening of a resolved path. -/
def StraysIn (p : Process ι) (k : String) (t : Turn ι) : Prop :=
  (p.handle t.handle).key = k ∧ t.deed.Strays (p.perform t).1

/-- Somewhere in the turns a fault gets out of an opening of a resolved path. -/
def Strays (p : Process ι) (k : String) : List (Turn ι) → Prop
  | [] => False
  | t :: turns => p.StraysIn k t ∨ (p.perform t).2.Strays k turns

/-- **Handles exclude each other**: no two are open on one path, and claimed are the paths that one is
open on, and those that have strayed. -/
structure Excludes (p : Process ι) (strayed : String → Prop) : Prop where
  unique : ∀ {k i j}, p.OpenOn k i → p.OpenOn k j → i = j
  claimed : ∀ k, k ∈ p.shelf.claimed ↔ (∃ i, p.OpenOn k i) ∨ strayed k
  apart : ∀ {k i}, strayed k → ¬ p.OpenOn k i

omit [DecidableEq ι] in
theorem Excludes.mem (h : p.Excludes strayed) (hi : p.OpenOn k i) : k ∈ p.shelf.claimed :=
  (h.claimed k).mpr (.inl ⟨i, hi⟩)

omit [DecidableEq ι] in
/-- At the start no handle is open and nothing has been left behind. -/
theorem excludes_start (shelf : Shelf) (handle : ι → Index) :
    (start shelf handle).Excludes fun _ => False := by
  have hclosed : ∀ k i, ¬ (start shelf handle).OpenOn k i := fun _ _ h => absurd h.1 nofun
  refine ⟨fun hi => absurd hi (hclosed _ _), fun k => ?_, False.elim⟩
  constructor
  · exact fun h => absurd h nofun
  · rintro (⟨i, hi⟩ | h)
    · exact absurd hi (hclosed k i)
    · exact h.elim

section Changes

variable {q : Process ι}

omit [DecidableEq ι]

/-- What counts of the paths that were left behind is which they are. -/
theorem Excludes.congr {strayed' : String → Prop} (h : p.Excludes strayed)
    (hstrayed : ∀ k, strayed' k ↔ strayed k) : p.Excludes strayed' := by
  obtain rfl : strayed' = strayed := funext fun k => propext (hstrayed k)
  exact h

/-- Where no handle opens or closes, the registry stands. -/
theorem Excludes.of_same (h : p.Excludes strayed) (hclaimed : q.shelf.claimed = p.shelf.claimed)
    (hopen : ∀ k i, q.OpenOn k i ↔ p.OpenOn k i) : q.Excludes strayed where
  unique hi hj := h.unique ((hopen _ _).mp hi) ((hopen _ _).mp hj)
  claimed k := by
    rw [hclaimed, h.claimed]
    simp only [hopen]
  apart hk hi := h.apart hk ((hopen _ _).mp hi)

/-- A handle opens on a path that was free. -/
theorem Excludes.of_opened {key : String} (h : p.Excludes strayed) (hfree : key ∉ p.shelf.claimed)
    (hclaimed : q.shelf.claimed = key :: p.shelf.claimed)
    (hopen : ∀ k i, q.OpenOn k i ↔ p.OpenOn k i ∨ (i = j ∧ key = k)) : q.Excludes strayed := by
  refine ⟨fun {k i i'} hi hi' => ?_, fun k => ?_, fun {k i} hk hi => ?_⟩
  · -- nobody else was open on the path, since it was free
    rcases (hopen k i).mp hi with hi | ⟨rfl, hk⟩ <;>
      rcases (hopen k i').mp hi' with hi' | ⟨rfl, hk'⟩
    · exact h.unique hi hi'
    · exact absurd (hk' ▸ h.mem hi) hfree
    · exact absurd (hk ▸ h.mem hi') hfree
    · rfl
  · rw [hclaimed, List.mem_cons, h.claimed]
    constructor
    · rintro (rfl | ⟨i, hi⟩ | hk)
      · exact .inl ⟨j, (hopen _ _).mpr (.inr ⟨rfl, rfl⟩)⟩
      · exact .inl ⟨i, (hopen _ _).mpr (.inl hi)⟩
      · exact .inr hk
    · rintro (⟨i, hi⟩ | hk)
      · rcases (hopen k i).mp hi with hi | ⟨-, rfl⟩
        · exact .inr (.inl ⟨i, hi⟩)
        · exact .inl rfl
      · exact .inr (.inr hk)
  · rcases (hopen k i).mp hi with hi | ⟨-, rfl⟩
    · exact h.apart hk hi
    · exact hfree ((h.claimed key).mpr (.inr hk))

/-- A handle closes, and its path is free. -/
theorem Excludes.of_closed {key : String} (h : p.Excludes strayed) (hj : p.OpenOn key j)
    (hclaimed : q.shelf.claimed = p.shelf.claimed.filter (· ≠ key))
    (hopen : ∀ k i, q.OpenOn k i ↔ p.OpenOn k i ∧ i ≠ j) : q.Excludes strayed := by
  refine ⟨fun hi hi' => h.unique ((hopen _ _).mp hi).1 ((hopen _ _).mp hi').1, fun k => ?_,
    fun hk hi => h.apart hk ((hopen _ _).mp hi).1⟩
  rw [hclaimed, List.mem_filter, decide_eq_true_eq, h.claimed]
  -- the path that is given back is claimed by the handle that closes and by nobody else
  constructor
  · rintro ⟨⟨i, hi⟩ | hk, hne⟩
    · refine .inl ⟨i, (hopen k i).mpr ⟨hi, ?_⟩⟩
      rintro rfl
      exact hne (hi.2.symm.trans hj.2)
    · exact .inr hk
  · rintro (⟨i, hi⟩ | hk)
    · obtain ⟨hi, hne⟩ := (hopen k i).mp hi
      refine ⟨.inl ⟨i, hi⟩, ?_⟩
      rintro rfl
      exact hne (h.unique hi hj)
    · refine ⟨.inr hk, ?_⟩
      rintro rfl
      exact h.apart hk hj

/-- A path strays that was free. -/
theorem Excludes.of_strayed {key : String} (h : p.Excludes strayed) (hfree : key ∉ p.shelf.claimed)
    (hclaimed : q.shelf.claimed = key :: p.shelf.claimed)
    (hopen : ∀ k i, q.OpenOn k i ↔ p.OpenOn k i) :
    q.Excludes fun k => strayed k ∨ key = k := by
  refine ⟨fun hi hi' => h.unique ((hopen _ _).mp hi) ((hopen _ _).mp hi'), fun k => ?_,
    fun {k i} hk hi => ?_⟩
  · rw [hclaimed, List.mem_cons, h.claimed]
    simp only [hopen]
    rw [or_comm, or_assoc, eq_comm]
  · rcases hk with hk | rfl
    · exact h.apart hk ((hopen _ _).mp hi)
    · exact hfree (h.mem ((hopen _ _).mp hi))

end Changes

/-- **The step.** -/
theorem Excludes.perform (h : p.Excludes strayed) (t : Turn ι) :
    (p.perform t).2.Excludes fun k => strayed k ∨ p.StraysIn k t := by
  have hmoves : Moves t.deed (p.desk t.handle t.now) (t.deed.action.outcome (p.desk t.handle t.now)) :=
    moves_action _ _
  have hself := perform_handle_self p t
  have hshelf : (p.perform t).2.shelf.claimed =
    (t.deed.action.outcome (p.desk t.handle t.now)).2.shelf.claimed := rfl
  have hanswer : (p.perform t).1 = (t.deed.action.outcome (p.desk t.handle t.now)).1 := rfl
  rcases hr : t.deed.action.outcome (p.desk t.handle t.now) with ⟨r, d⟩
  rw [hr] at hmoves hself hshelf hanswer
  dsimp only at hself hshelf hanswer
  -- only the handle of the turn may open or close
  have hothers : ∀ k i, i ≠ t.handle → ((p.perform t).2.OpenOn k i ↔ p.OpenOn k i) := by
    intro k i hi
    rw [OpenOn, OpenOn, perform_handle_of_ne p hi]
  have hown : ∀ k, (p.perform t).2.OpenOn k t.handle ↔ d.index.isOpen = true ∧ d.index.key = k := by
    intro k
    rw [OpenOn, hself]
  have hnot : ¬ t.deed.Strays r → ∀ k, (strayed k ∨ p.StraysIn k t) ↔ strayed k := by
    intro hstrays k
    rw [StraysIn, hanswer]
    exact or_iff_left fun hk => hstrays hk.2
  rcases hmoves with ⟨hstrays, hopen, hkey, hclaimed⟩ | ⟨hstrays, hclosed, hfree, ht⟩ |
    ⟨hstrays, hopen, ht⟩ | ⟨hstrays, hclosed, hfree, ht⟩
  · refine (h.of_same (hshelf.trans hclaimed) fun k i => ?_).congr (hnot hstrays)
    by_cases hi : i = t.handle
    · subst hi
      rw [hown, hopen]
      exact and_congr_right fun hd => by rw [hkey hd]; rfl
    · exact hothers k i hi
  · refine (h.of_opened (j := t.handle) hfree (hshelf.trans ht.claimed) fun k i => ?_).congr
      (hnot hstrays)
    by_cases hi : i = t.handle
    · subst hi
      rw [hown, ht.isOpen, ht.key]
      exact ⟨fun hk => .inr ⟨rfl, hk.2⟩, fun hk => ⟨rfl, hk.elim
        (fun hk => absurd (hclosed ▸ hk.1) nofun) And.right⟩⟩
    · rw [hothers k i hi, or_iff_left fun hk => hi hk.1]
  · refine (h.of_closed (j := t.handle) ⟨hopen, rfl⟩ (hshelf.trans ht.claimed) fun k i => ?_).congr
      (hnot hstrays)
    by_cases hi : i = t.handle
    · subst hi
      rw [hown, ht.isOpen]
      exact ⟨fun hk => absurd hk.1 nofun, fun hk => absurd rfl hk.2⟩
    · rw [hothers k i hi, and_iff_left hi]
  · refine (h.of_strayed hfree (hshelf.trans ht.claimed) fun k i => ?_).congr fun k => ?_
    · by_cases hi : i = t.handle
      · subst hi
        rw [hown, ht.isOpen, OpenOn]
        exact iff_of_false (fun hk => absurd hk.1 nofun) fun hk => absurd (hclosed ▸ hk.1) nofun
      · exact hothers k i hi
    · rw [StraysIn, hanswer]
      exact or_congr_right (and_iff_left hstrays)

/-- **The run.** -/
theorem Excludes.performAll (h : p.Excludes strayed) (turns : List (Turn ι)) :
    (p.performAll turns).Excludes fun k => strayed k ∨ p.Strays k turns := by
  -- what has strayed is collected on the way, so it is generalized with the process
  induction turns generalizing p strayed with
  | nil => exact h.congr fun k => or_iff_left id
  | cons t turns ih => exact (ih (h.perform t)).congr fun k => or_assoc.symm

omit [DecidableEq ι] in
/-- A path that nobody strayed from is claimed just if exactly one handle is open on it. -/
theorem Excludes.claimed_iff (h : p.Excludes strayed) (k : String) :
    (k ∈ p.shelf.claimed ↔ ∃! i, p.OpenOn k i) ↔ ¬ strayed k := by
  have hone : (∃! i, p.OpenOn k i) ↔ ∃ i, p.OpenOn k i :=
    ⟨ExistsUnique.exists, fun ⟨i, hi⟩ => ⟨i, hi, fun _ hj => h.unique hj hi⟩⟩
  rw [hone, h.claimed]
  constructor
  · intro hiff hstrayed
    obtain ⟨i, hi⟩ := hiff.mp (.inr hstrayed)
    exact h.apart hstrayed hi
  · exact fun hstrayed => or_iff_left hstrayed

/-- A desk that is left as it was leaves the process as it was. -/
theorem leave_desk (p : Process ι) (i : ι) (now : Binary64) : p.leave i (p.desk i now) = p := by
  unfold leave desk
  rw [Function.update_eq_self]

/-- An opening of a claimed path is refused as locked, and nothing has happened. -/
theorem perform_openIndex_claimed (hclosed : (p.handle i).isOpen = false)
    (hclaimed : (p.handle i).key ∈ p.shelf.claimed) (now : Binary64)
    (faults : OpenStep → Option Fault) :
    p.perform ⟨i, now, .openIndex faults⟩ = (.error (.catalog (.locked (p.handle i).key)), p) := by
  have haction : (Deed.openIndex faults).action.outcome (p.desk i now) =
      (.error (.catalog (.locked (p.handle i).key)), p.desk i now) := by
    rw [Deed.action, outcome_bind_of_error (outcome_openStruck_claimed faults
      (Index.isOpen_eq_false.mp hclosed) hclaimed)]
    rfl
  unfold perform
  dsimp only
  rw [haction, p.leave_desk]

/-- An opening that returns has opened the handle, on its own path. -/
theorem openOn_of_openIndex_ok {faults : OpenStep → Option Fault} {a : Answer} {now : Binary64}
    (ha : (p.perform ⟨i, now, .openIndex faults⟩).1 = .ok a) :
    (p.perform ⟨i, now, .openIndex faults⟩).2.OpenOn (p.handle i).key i := by
  unfold OpenOn
  rw [p.perform_handle_self ⟨i, now, .openIndex faults⟩]
  replace ha : ((Deed.openIndex faults).action.outcome (p.desk i now)).1 = .ok a := ha
  dsimp only
  -- a closed handle has been opened; one that was open has kept its path
  rcases hs : (p.handle i).session with _ | s
  · by_cases hclaimed : (p.handle i).key ∈ p.shelf.claimed
    · have hrefused := perform_openIndex_claimed (Index.isOpen_eq_false.mpr hs) hclaimed now faults
      exact absurd ((congrArg Prod.fst hrefused).symm.trans ha) nofun
    · have h := outcomes_openStruck faults hs hclaimed (p.desk i now) ⟨rfl, rfl⟩
      rw [Deed.action, outcome_bind] at ha ⊢
      rcases hr : (openStruck faults).outcome (p.desk i now) with ⟨e | _, t⟩ <;> rw [hr] at h ha
      · exact absurd ha nofun
      · obtain ⟨place, c, hindex, -⟩ := h
        dsimp only [outcome_pure]
        rw [hindex]
        exact ⟨rfl, rfl⟩
  · have hopen : (p.desk i now).index.isOpen = true := Index.isOpen_of_session hs
    rw [Deed.action, outcome_bind_of_ok (outcome_openStruck_open faults hopen)]
    exact ⟨hopen, rfl⟩

/-- An opening that fails leaves a path that was free claimed just if a fault got out of it. -/
theorem claimed_of_openIndex_error {faults : OpenStep → Option Fault} {e : Failure}
    {now : Binary64} (hclosed : (p.handle i).isOpen = false)
    (hfree : (p.handle i).key ∉ p.shelf.claimed)
    (he : (p.perform ⟨i, now, .openIndex faults⟩).1 = .error e) :
    (p.handle i).key ∈ (p.perform ⟨i, now, .openIndex faults⟩).2.shelf.claimed ↔
      ∃ f, e = .fault f := by
  have h := outcomes_openStruck faults (Index.isOpen_eq_false.mp hclosed) hfree (p.desk i now)
    ⟨rfl, rfl⟩
  have hshelf : (p.perform ⟨i, now, .openIndex faults⟩).2.shelf =
    ((Deed.openIndex faults).action.outcome (p.desk i now)).2.shelf := rfl
  replace he : ((Deed.openIndex faults).action.outcome (p.desk i now)).1 = .error e := he
  rw [hshelf]
  rw [Deed.action, outcome_bind] at he ⊢
  rcases hr : (openStruck faults).outcome (p.desk i now) with ⟨e' | _, t⟩ <;> rw [hr] at h he
  · obtain rfl : e' = e := Except.error.inj he
    dsimp only
    -- a report gives the path back, and a fault does not
    obtain ⟨-, ⟨⟨r, rfl⟩, hclaimed⟩ | ⟨⟨f, rfl⟩, hclaimed⟩⟩ := h
    · rw [hclaimed]
      refine iff_of_false (fun hmem => ?_) nofun
      exact absurd rfl (of_decide_eq_true (List.mem_filter.mp hmem).2)
    · rw [hclaimed]
      exact iff_of_true List.mem_cons_self ⟨f, rfl⟩
  · exact absurd he nofun

/-- A handle that is closed has its path given up. -/
theorem perform_closes {deed : Deed} (hcloses : deed.closes = true)
    (hopen : (p.handle i).isOpen = true) (now : Binary64) :
    ((p.perform ⟨i, now, deed⟩).2.handle i).isOpen = false ∧
      (p.handle i).key ∉ (p.perform ⟨i, now, deed⟩).2.shelf.claimed := by
  have hstands := standing_closes (d := p.desk i now) hcloses hopen
  constructor
  · rw [p.perform_handle_self ⟨i, now, deed⟩]
    exact hstands.isOpen
  · intro hmem
    replace hmem := hstands.claimed ▸ hmem
    exact absurd rfl (of_decide_eq_true (List.mem_filter.mp hmem).2)

end Process

/-- **Exclusion.** Start with no handle open, and let anything happen to any handles. Then the claimed
paths are those that exactly one handle is open on, but for the paths of which a fault got out of an
opening: these stay claimed with no handle open. No two handles are open on one path. What is claimed
is refused to others, and nothing is changed by that; an opening that returns has opened the handle on
its path, and one that fails leaves the path free just if it is reported; and a closing leaves it free
whatever is raised. -/
theorem exclusive (shelf : Shelf) (handle : ι → Index) (turns : List (Turn ι)) :
    let p := Process.start shelf handle
    let q := p.performAll turns
    (∀ k, (k ∈ q.shelf.claimed ↔ ∃! i, q.OpenOn k i) ↔ ¬ p.Strays k turns) ∧
    (∀ k i j, q.OpenOn k i → q.OpenOn k j → i = j) ∧
    (∀ i now faults, (q.handle i).isOpen = false → (q.handle i).key ∈ q.shelf.claimed →
      q.perform ⟨i, now, .openIndex faults⟩ =
          (.error (.catalog (.locked (q.handle i).key)), q) ∧
        (CatalogError.locked (q.handle i).key).code = .indexLocked) ∧
    (∀ i now faults a, (q.perform ⟨i, now, .openIndex faults⟩).1 = .ok a →
      (q.perform ⟨i, now, .openIndex faults⟩).2.OpenOn (q.handle i).key i) ∧
    (∀ i now faults e, (q.handle i).isOpen = false → (q.handle i).key ∉ q.shelf.claimed →
      (q.perform ⟨i, now, .openIndex faults⟩).1 = .error e →
        ((q.handle i).key ∈ (q.perform ⟨i, now, .openIndex faults⟩).2.shelf.claimed ↔
          ∃ f, e = .fault f)) ∧
    (∀ i now deed, (q.handle i).isOpen = true → deed.closes = true →
      ((q.perform ⟨i, now, deed⟩).2.handle i).isOpen = false ∧
        (q.handle i).key ∉ (q.perform ⟨i, now, deed⟩).2.shelf.claimed) := by
  -- all six parts follow from one invariant: a path is claimed if it is open at one handle or has
  -- strayed
  intro p q
  have h : q.Excludes fun k => False ∨ p.Strays k turns :=
    (Process.excludes_start shelf handle).performAll turns
  replace h : q.Excludes fun k => p.Strays k turns := h.congr fun k => (or_iff_right id).symm
  refine ⟨h.claimed_iff, fun k i j => h.unique, fun i now faults hclosed hclaimed => ?_,
    fun i now faults a ha => ?_, fun i now faults e hclosed hfree he => ?_,
    fun i now deed hopen hcloses => ?_⟩
  · exact ⟨Process.perform_openIndex_claimed hclosed hclaimed now faults, rfl⟩
  · exact Process.openOn_of_openIndex_ok ha
  · exact Process.claimed_of_openIndex_error hclosed hfree he
  · exact Process.perform_closes hcloses hopen now

/-- An opening whose memory is no machine word keeps its path: no other handle can open it, and none
has. -/
theorem failed_opening_kept_claim :
    let handle : Bool → Index := fun greedy =>
      Index.new ⟨1, []⟩ ⟨1, ["a"]⟩ (if greedy then 20000000000000 else 50) 1 .zero
    let p := Process.start {} handle
    let opening := p.perform ⟨true, .zero, .openIndex fun _ => none⟩
    let key := (handle true).key
    opening.1 = .error (.fault .wordTooWide) ∧ key ∈ opening.2.shelf.claimed ∧
      (∀ i, (opening.2.handle i).isOpen = false) ∧
        (opening.2.perform ⟨false, .zero, .openIndex fun _ => none⟩).1 =
          .error (.catalog (.locked key)) := by
  decide +kernel

end CodeCatalog.Search
