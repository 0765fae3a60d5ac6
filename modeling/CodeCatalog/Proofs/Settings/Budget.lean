/-
Which memory budgets of the writing threads are accepted.

Each thread needs at least `minThreadMegabytes`. The share of a thread is a rounded quotient, so for
some budgets the rule on whole numbers and what is accepted part. A shortage of at most `2 ^ (-50)`
of a megabyte for each thread is rounded away (`Overlooked`), which takes `2 ^ 50` threads or more;
and a share beyond the finite numbers (`Immeasurable`) ends the check with a fault, though there is
far more than enough. All other budgets are accepted just if they are enough, and refused with the
rules that they break otherwise.
-/
import CodeCatalog.Proofs.Decimal.Quotient
import CodeCatalog.Proofs.Settings.Check

set_option autoImplicit false

namespace CodeCatalog.Settings

open Check (right wrong below)

/-! ## The share of a thread

The share is a rounded quotient, compared with a whole number of megabytes. Rounding moves it over
that bound only where it comes very near. -/

section Share

variable {megabytes threads : Nat}

/-- The least memory in units, by its binary places. -/
theorem ofInt_minThreadMegabytes :
    Binary64.ofInt minThreadMegabytes = .finite false (15 * 2 ^ 49 * 2 ^ 1025) := by
  decide +kernel

/-- **The share of a thread is measured as too small** just if the shortage for each thread is more
than `2 ^ (-50)` of a megabyte. -/
theorem share_lt_iff (hthreads : 0 < threads)
    (hfinite : megabytes < Binary64.quotientLimit * threads) :
    (Binary64.ofRatio false megabytes threads).lt (.ofInt minThreadMegabytes) = true ↔
      megabytes * 2 ^ 50 + threads < 15 * threads * 2 ^ 50 := by
  have hones : 2 * Binary64.unitsPerOne = 2 ^ 50 * 2 ^ 1025 := by decide +kernel
  have hheap : 2 * (megabytes * Binary64.unitsPerOne) = megabytes * 2 ^ 50 * 2 ^ 1025 := by
    rw [Nat.mul_left_comm, hones, Nat.mul_assoc]
  -- a share is rounded up to the least one from half a binary place below it on
  have hreach : 15 * 2 ^ 49 * 2 ^ 1025 ≤
      Binary64.quotientUnits (megabytes * Binary64.unitsPerOne) threads ↔
      (2 * (15 * 2 ^ 49) - 1) * threads ≤ megabytes * 2 ^ 50 := by
    rw [Binary64.le_quotientUnits_iff hthreads (by decide) (by decide) (by decide), hheap,
      Nat.mul_right_comm, Nat.mul_le_mul_right_iff (Nat.two_pow_pos 1025)]
  have hunits := (Binary64.isFinite_ofRatio_iff false hthreads).mpr hfinite
  rw [Binary64.ofRatio_eq] at hunits ⊢
  rw [ofInt_minThreadMegabytes]
  generalize 15 * 2 ^ 49 * 2 ^ 1025 = least at hreach ⊢
  generalize Binary64.quotientUnits (megabytes * Binary64.unitsPerOne) threads = share at *
  split_ifs at hunits ⊢
  · have hlt : (Binary64.finite false share).lt (.finite false least) = true ↔ share < least := by
      rw [Binary64.lt, decide_eq_true_iff]
      exact Int.ofNat_lt
    rw [hlt]
    omega
  · exact absurd hunits Bool.false_ne_true

end Share

/-! ## Budgets

What is enough is told in whole numbers. Two sorts of budgets are judged otherwise: shares that are
no finite number, and shares that are rounded up to the bound. -/

/-- The rule for budgets: every thread has enough memory, if there is a bound on the threads. -/
def Enough (heap threads : Int) : Prop :=
  minThreadMegabytes ≤ heap ∧ 0 ≤ threads ∧ minThreadMegabytes * threads ≤ heap

/-- The share of a thread is too large for a finite number. -/
def Immeasurable (heap threads : Int) : Prop :=
  minThreadMegabytes ≤ heap ∧ 0 < threads ∧ Binary64.quotientLimit * threads ≤ heap

/-- The threads have not enough memory, but what is missing for each is rounded away. -/
def Overlooked (heap threads : Int) : Prop :=
  minThreadMegabytes ≤ heap ∧ heap < minThreadMegabytes * threads ∧
    (minThreadMegabytes * threads - heap) * 2 ^ 50 ≤ threads

instance (heap threads : Int) : Decidable (Enough heap threads) :=
  inferInstanceAs (Decidable (_ ∧ _ ∧ _))

instance (heap threads : Int) : Decidable (Immeasurable heap threads) :=
  inferInstanceAs (Decidable (_ ∧ _ ∧ _))

instance (heap threads : Int) : Decidable (Overlooked heap threads) :=
  inferInstanceAs (Decidable (_ ∧ _ ∧ _))

/-- Settings of the index with a budget, and otherwise the built-in ones. -/
def budgetSettings (heap threads : Int) : IndexSettings :=
  { writerHeapMegabytes := heap, writerThreads := threads }

/-- A budget as data. -/
def budgetDatum (heap threads : Int) : Datum :=
  table [("writer_heap_size_mb", .scalar (.int heap)),
    ("writer_num_threads", .scalar (.int threads))]

/-- What is wrong with a budget by the ranges of its two numbers. -/
def rangeProblems (heap threads : Int) : List Problem :=
  (if minThreadMegabytes ≤ heap then [] else
    [{ way := [.setting "writer_heap_size_mb"], cause := .smallHeap heap,
       found := .scalar (.int heap) }]) ++
  (if 0 ≤ threads then [] else
    [{ way := [.setting "writer_num_threads"], cause := .negativeThreads threads,
       found := .scalar (.int threads) }])

/-- What is wrong with a budget that is refused: the ranges, or else the share of a thread. -/
def budgetProblems (heap threads : Int) : List Problem :=
  if minThreadMegabytes ≤ heap ∧ 0 ≤ threads then
    [{ cause := .smallHeapPerThread heap threads, found := budgetDatum heap threads }]
  else rangeProblems heap threads

section Budget

variable {heap threads : Int}

theorem Overlooked.threads_pos (h : Overlooked heap threads) : 0 < threads := by
  obtain ⟨-, hless, hshortage⟩ := h
  omega

/-- Fewer than `2 ^ 50` threads have no shortage that is overlooked. -/
theorem not_overlooked (h : threads < 2 ^ 50) : ¬ Overlooked heap threads := by
  rintro ⟨-, hless, hshortage⟩
  omega

/-- A share that is too large is more than enough. -/
theorem Immeasurable.enough (h : Immeasurable heap threads) : Enough heap threads := by
  obtain ⟨hheap, hthreads, hlimit⟩ := h
  have hleast : minThreadMegabytes ≤ (Binary64.quotientLimit : Int) := by decide +kernel
  have hshare := Int.mul_le_mul_of_nonneg_right hleast hthreads.le
  exact ⟨hheap, hthreads.le, hshare.trans hlimit⟩

theorem Overlooked.not_enough (h : Overlooked heap threads) : ¬ Enough heap threads := by
  intro henough
  exact absurd h.2.1 (Int.not_lt.mpr henough.2.2)

/-! ## Ranges

Each of the two numbers has a range of its own, which is checked before the share. -/

theorem checkRule_int (holds : Int → Bool) (broken : Int → Cause) (n : Int) :
    checkRule checkWhole holds broken (.scalar (.int n)) =
      if holds n then right n else wrong (broken n) (.scalar (.int n)) := rfl

/-- Heap and threads are checked by themselves first, and the problems of both are told. -/
theorem checkIndexFields_budget (heap threads : Int) :
    checkSection .index checkIndexFields (budgetDatum heap threads) =
      if minThreadMegabytes ≤ heap ∧ 0 ≤ threads then right (budgetSettings heap threads)
      else .ok (.error (rangeProblems heap threads)) := by
  obtain ⟨entries, hentries⟩ : ∃ entries : Entries, budgetDatum heap threads = .table entries :=
    ⟨_, rfl⟩
  have hfind : entries.find? "writer_heap_size_mb" = some (.scalar (.int heap)) ∧
      entries.find? "writer_num_threads" = some (.scalar (.int threads)) ∧
      entries.find? "index_path" = none ∧ entries.find? "refresh_min_interval_sec" = none := by
    obtain rfl := Datum.table.inj hentries
    exact ⟨rfl, rfl, rfl, rfl⟩
  have hfields : checkSection .index checkIndexFields (budgetDatum heap threads) =
      checkIndexFields entries := by
    rw [hentries]
    rfl
  rw [hfields, checkIndexFields]
  simp only [setting, hfind]
  rw [checkRule_int, checkRule_int, rangeProblems]
  simp only [decide_eq_true_eq]
  -- each of the two is told on its own
  by_cases hheap : minThreadMegabytes ≤ heap
  · by_cases hthreads : 0 ≤ threads
    · simp only [if_pos hheap, if_pos hthreads, if_pos (And.intro hheap hthreads)]
      rfl
    · simp only [if_pos hheap, if_neg hthreads, if_neg (fun h => hthreads (And.right h))]
      rfl
  · by_cases hthreads : 0 ≤ threads
    · simp only [if_neg hheap, if_pos hthreads, if_neg (fun h => hheap (And.left h))]
      rfl
    · simp only [if_neg hheap, if_neg hthreads, if_neg (fun h => hheap (And.left h))]
      rfl

/-- A budget out of its range has a problem that says so. -/
theorem rangeProblems_ne_nil (h : ¬ (minThreadMegabytes ≤ heap ∧ 0 ≤ threads)) :
    rangeProblems heap threads ≠ [] := by
  unfold rangeProblems
  intro hnil
  rw [List.append_eq_nil_iff] at hnil
  apply h
  constructor
  · by_contra hheap
    rw [if_neg hheap] at hnil
    exact absurd hnil.1 nofun
  · by_contra hthreads
    rw [if_neg hthreads] at hnil
    exact absurd hnil.2 nofun

/-- A budget that is refused is refused with a problem; there is always one to name. -/
theorem budgetProblems_ne_nil (heap threads : Int) : budgetProblems heap threads ≠ [] := by
  unfold budgetProblems
  split_ifs with h
  · exact nofun
  · exact rangeProblems_ne_nil h

/-! ## Shares

The check of the share, with its three ends. -/

/-- The memory of the threads, once heap and threads are in their ranges. -/
theorem checkThreadMemory_budget (d : Datum) (hheap : minThreadMegabytes ≤ heap)
    (hthreads : 0 ≤ threads) : checkThreadMemory d (budgetSettings heap threads) =
      if Immeasurable heap threads then .error .quotientTooLarge
      else if Enough heap threads ∨ Overlooked heap threads then right (budgetSettings heap threads)
      else wrong (.smallHeapPerThread heap threads) d := by
  obtain ⟨megabytes, rfl⟩ := Int.eq_ofNat_of_zero_le ((by decide : (0 : Int) ≤ 15).trans hheap)
  obtain ⟨count, rfl⟩ := Int.eq_ofNat_of_zero_le hthreads
  rcases Nat.eq_zero_or_pos count with rfl | hcount
  · -- without threads nothing is shared
    rw [if_neg (fun h => absurd h.2.1 (by decide)), if_pos (.inl ⟨hheap, hthreads, by omega⟩)]
    rfl
  have hfinite := Binary64.isFinite_ofRatio_iff (n := megabytes) false hcount
  have hlimit : Immeasurable megabytes count ↔ ¬ megabytes < Binary64.quotientLimit * count := by
    rw [Immeasurable, and_iff_right hheap]
    norm_cast
    rw [and_iff_right hcount, Nat.not_lt]
  have hshare : threadMegabytes (budgetSettings megabytes count) =
      if (Binary64.ofRatio false megabytes count).isFinite then
        .ok (some (Binary64.ofRatio false megabytes count))
      else .error .quotientTooLarge :=
    if_neg (Int.natCast_ne_zero.mpr hcount.ne')
  rw [checkThreadMemory, hshare]
  by_cases hmeasurable : megabytes < Binary64.quotientLimit * count
  · have hless := share_lt_iff hcount hmeasurable
    have henough : (Enough megabytes count ∨ Overlooked megabytes count) ↔
        ¬ megabytes * 2 ^ 50 + count < 15 * count * 2 ^ 50 := by
      rw [Enough, Overlooked, minThreadMegabytes] at *
      omega
    rw [if_pos (hfinite.mpr hmeasurable), if_neg (fun h => hlimit.mp h hmeasurable)]
    dsimp only
    by_cases hsmall : megabytes * 2 ^ 50 + count < 15 * count * 2 ^ 50
    · rw [if_pos (hless.mpr hsmall), if_neg (fun h => henough.mp h hsmall)]
      rfl
    · rw [if_neg (fun h => hsmall (hless.mp h)), if_pos (henough.mpr hsmall)]
  · rw [if_neg (fun h => hmeasurable (hfinite.mp h)), if_pos (hlimit.mpr hmeasurable)]

/-! ## The check of a budget

Together: which budgets are accepted, and which of them are not enough in whole numbers. -/

/-- How the check of a budget ends. -/
theorem checkIndex_budget (heap threads : Int) : checkIndex (budgetDatum heap threads) =
    if Immeasurable heap threads then .error .quotientTooLarge
    else if Enough heap threads ∨ Overlooked heap threads then right (budgetSettings heap threads)
    else .ok (.error (budgetProblems heap threads)) := by
  rw [checkIndex_eq, checkIndexFields_budget, budgetProblems]
  by_cases hranges : minThreadMegabytes ≤ heap ∧ 0 ≤ threads
  · rw [if_pos hranges, if_pos hranges]
    exact checkThreadMemory_budget _ hranges.1 hranges.2
  -- out of range neither quotient is looked at
  · have hmeasurable : ¬ Immeasurable heap threads := fun h => hranges ⟨h.1, h.2.1.le⟩
    have hrefused : ¬ (Enough heap threads ∨ Overlooked heap threads) := by
      rintro (h | h)
      · exact hranges ⟨h.1, h.2.1⟩
      · exact hranges ⟨h.1, h.threads_pos.le⟩
    rw [if_neg hranges, if_neg hmeasurable, if_neg hrefused, if_neg hranges]
    rfl

/-- **Which budgets are accepted.** All that are enough but for those whose share is too large, and
those whose shortage is overlooked. A share that is too large ends the check with a fault, and there
is no other one; all other budgets are refused, and it is told what is wrong. So the rule on whole
numbers decides just where no share is too large and no shortage is overlooked, and the latter takes
at least `2 ^ 50` threads. -/
theorem budget_accepted_iff (heap threads : Int) :
    let outcome := checkIndex (budgetDatum heap threads)
    let accepted := outcome = right (budgetSettings heap threads)
    let refused := ∃ p ps, outcome = .ok (.error (p :: ps)) ∧ budgetProblems heap threads = p :: ps
    (accepted ↔ Enough heap threads ∧ ¬ Immeasurable heap threads ∨ Overlooked heap threads) ∧
    (∀ f, outcome = .error f ↔ Immeasurable heap threads ∧ f = .quotientTooLarge) ∧
    (refused ↔ ¬ Enough heap threads ∧ ¬ Overlooked heap threads) ∧
    (((accepted ↔ Enough heap threads) ∧ (refused ↔ ¬ Enough heap threads)) ↔
      ¬ Immeasurable heap threads ∧ ¬ Overlooked heap threads) ∧
    (Overlooked heap threads → 2 ^ 50 ≤ threads) := by
  intro outcome accepted refused
  have hlarge : Immeasurable heap threads → Enough heap threads := Immeasurable.enough
  have hshort : Overlooked heap threads → ¬ Enough heap threads := Overlooked.not_enough
  obtain ⟨p, ps, hproblems⟩ := List.exists_cons_of_ne_nil (budgetProblems_ne_nil heap threads)
  have houtcome : outcome = _ := checkIndex_budget heap threads
  have hrefused : refused ↔ outcome = .ok (.error (budgetProblems heap threads)) := by
    constructor
    · rintro ⟨p, ps, hps, hsame⟩
      rw [hps, hsame]
    · intro h
      exact ⟨p, ps, hproblems ▸ h, hproblems⟩
  have hends : (accepted ↔ Enough heap threads ∧ ¬ Immeasurable heap threads ∨
        Overlooked heap threads) ∧
      (∀ f, outcome = .error f ↔ Immeasurable heap threads ∧ f = .quotientTooLarge) ∧
      (refused ↔ ¬ Enough heap threads ∧ ¬ Overlooked heap threads) := by
    rw [hrefused]
    show (outcome = _ ↔ _) ∧ _
    rw [houtcome]
    by_cases hmeasurable : Immeasurable heap threads
    · -- a share that is too large leaves the other two ends out
      have henough := hlarge hmeasurable
      have hseen : ¬ Overlooked heap threads := fun h => hshort h henough
      rw [if_pos hmeasurable]
      refine ⟨iff_of_false nofun ?_, fun f => ?_, iff_of_false nofun fun h => h.1 henough⟩
      · rintro (h | h)
        · exact h.2 hmeasurable
        · exact hseen h
      · rw [Except.error.injEq, and_iff_right hmeasurable, eq_comm]
    · rw [if_neg hmeasurable]
      by_cases hfits : Enough heap threads ∨ Overlooked heap threads
      · rw [if_pos hfits]
        refine ⟨iff_of_true rfl ?_, fun f => iff_of_false nofun fun h => hmeasurable h.1, ?_⟩
        · exact hfits.imp_left fun h => ⟨h, hmeasurable⟩
        · exact iff_of_false nofun fun h => hfits.elim h.1 h.2
      · rw [if_neg hfits]
        rw [not_or] at hfits
        refine ⟨iff_of_false nofun ?_, fun f => iff_of_false nofun fun h => hmeasurable h.1, ?_⟩
        · rintro (h | h)
          · exact hfits.1 h.1
          · exact hfits.2 h
        · exact iff_of_true rfl hfits
  refine ⟨hends.1, hends.2.1, hends.2.2, ?_, fun h => ?_⟩
  · rw [hends.1, hends.2.2]
    tauto
  · by_contra hthreads
    exact not_overlooked (Int.not_le.mp hthreads) h

/-- **Budgets that are misjudged.** One megabyte less than enough for `2 ^ 60` threads is accepted,
and `2 ^ 1024` megabytes for a single thread end the check with a fault. -/
theorem budget_misjudged :
    ¬ Enough (15 * 2 ^ 60 - 1) (2 ^ 60) ∧
    checkIndex (budgetDatum (15 * 2 ^ 60 - 1) (2 ^ 60)) =
      right (budgetSettings (15 * 2 ^ 60 - 1) (2 ^ 60)) ∧
    Enough (2 ^ 1024) 1 ∧ checkIndex (budgetDatum (2 ^ 1024) 1) = .error .quotientTooLarge := by
  have hshort : ¬ Enough (15 * 2 ^ 60 - 1) (2 ^ 60) ∧ ¬ Immeasurable (15 * 2 ^ 60 - 1) (2 ^ 60) ∧
      Overlooked (15 * 2 ^ 60 - 1) (2 ^ 60) := by
    decide +kernel
  have hlarge : Enough (2 ^ 1024) 1 ∧ Immeasurable (2 ^ 1024) 1 := by decide +kernel
  refine ⟨hshort.1, ?_, hlarge.1, ?_⟩
  · rw [checkIndex_budget, if_neg hshort.2.1, if_pos (.inr hshort.2.2)]
  · rw [checkIndex_budget, if_pos hlarge.2]

end Budget

end CodeCatalog.Settings
