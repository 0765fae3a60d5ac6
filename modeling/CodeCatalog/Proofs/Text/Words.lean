/-
Words of a text, and the two lower cases of a word.

Words are cut at the characters that a table does not have. Two tables that agree on the characters
of a text cut it into the same words (`runs_congr`), so all that can set a pattern apart from an
indexed name is a character that only one of the tables has, and what lower case does to a word.

The lower case of a whole text looks around a capital sigma; that of single characters does not, and
knows some newer capitals. No word of a pattern has a newer capital, so for such words the two differ
at a sigma that ends a word, and nowhere else (`lowerChars_eq_lowerEach_iff`). Both give every
character as many characters, which is why the texts can be compared piece by piece.
-/
import CodeCatalog.Text.Case
import CodeCatalog.Text.Cut
import CodeCatalog.Text.LetterTable
import Mathlib.Tactic

set_option autoImplicit false

namespace CodeCatalog.Text

variable {p q : Char → Bool} {text word : List Char} {c : Char}

/-! ## Cutting

Words are the pieces between separators that are not empty. Cutting is a fold over the characters,
and pieces are never lost at the borders. -/

theorem cutAt_cons (separator : Char → Bool) (c : Char) (text : List Char) :
    cutAt separator (c :: text) = consPiece separator c (cutAt separator text) := rfl

/-- There is always a piece, if only an empty one. -/
theorem cutAt_ne_nil (separator : Char → Bool) (text : List Char) : cutAt separator text ≠ [] := by
  cases text with
  | nil => simp [cutAt]
  | cons x text =>
    rw [cutAt_cons]
    unfold consPiece
    split
    · simp
    · split <;> simp

/-- A separator parts the pieces of what is before it from those of what is behind it. -/
theorem cutAt_parted {separator : Char → Bool} (hc : separator c = true) (a b : List Char) :
    cutAt separator (a ++ c :: b) = cutAt separator a ++ cutAt separator b := by
  induction a with
  | nil =>
    rw [List.nil_append, cutAt_cons]
    exact if_pos hc
  | cons x a ih =>
    -- the character joins the first piece, which is one of those before the separator
    obtain ⟨piece, rest, hpieces⟩ := List.exists_cons_of_ne_nil (cutAt_ne_nil separator a)
    rw [List.cons_append, cutAt_cons, ih, cutAt_cons, hpieces]
    unfold consPiece
    split <;> rfl

/-- A text without separators is one piece. -/
theorem cutAt_of_no_separator {separator : Char → Bool} (h : ∀ c ∈ text, separator c = false) :
    cutAt separator text = [text] := by
  induction text with
  | nil => rfl
  | cons x text ih =>
    rw [cutAt_cons, ih fun c hc => h c (List.mem_cons_of_mem x hc)]
    simp [consPiece, h x List.mem_cons_self]

/-- What is in a piece is in the text and no separator. -/
theorem of_mem_cutAt {separator : Char → Bool} {piece : List Char}
    (hpiece : piece ∈ cutAt separator text) (hc : c ∈ piece) :
    c ∈ text ∧ separator c = false := by
  induction text generalizing piece with
  | nil =>
    rw [List.mem_singleton.mp hpiece] at hc
    exact absurd hc List.not_mem_nil
  | cons x text ih =>
    have hrest : ∀ piece ∈ cutAt separator text, c ∈ piece →
        c ∈ x :: text ∧ separator c = false := by
      intro piece hpiece hc
      obtain ⟨hmem, hseparator⟩ := ih hpiece hc
      exact ⟨List.mem_cons_of_mem _ hmem, hseparator⟩
    rw [cutAt_cons] at hpiece
    unfold consPiece at hpiece
    by_cases hx : separator x
    · rw [if_pos hx] at hpiece
      rcases List.mem_cons.mp hpiece with rfl | hpiece
      · exact absurd hc List.not_mem_nil
      · exact hrest piece hpiece hc
    · rw [if_neg hx] at hpiece
      have hfirst : x ∈ x :: text ∧ separator x = false :=
        ⟨List.mem_cons_self, eq_false_of_ne_true hx⟩
      -- the character goes before the first piece, so only that one is longer now
      rcases hpieces : cutAt separator text with _ | ⟨first, others⟩ <;>
        rw [hpieces] at hpiece hrest
      · rw [List.mem_singleton.mp hpiece] at hc
        rw [List.mem_singleton.mp hc]
        exact hfirst
      · rcases List.mem_cons.mp hpiece with rfl | hpiece
        · rcases List.mem_cons.mp hc with rfl | hc
          · exact hfirst
          · exact hrest first List.mem_cons_self hc
        · exact hrest piece (List.mem_cons_of_mem _ hpiece) hc

theorem of_mem_runs (hword : word ∈ runs p text) (hc : c ∈ word) : c ∈ text ∧ p c = true := by
  obtain ⟨hmem, hseparator⟩ := of_mem_cutAt (List.mem_filter.mp hword).1 hc
  exact ⟨hmem, by simpa using hseparator⟩

/-- Classes that agree on a text cut it into the same words. -/
theorem runs_congr (h : ∀ c ∈ text, p c = q c) : runs p text = runs q text := by
  have hcut : cutAt (fun c => !p c) text = cutAt (fun c => !q c) text := by
    induction text with
    | nil => rfl
    | cons x text ih =>
      have hx : p x = q x := h x List.mem_cons_self
      rw [cutAt_cons, cutAt_cons, ih fun c hc => h c (List.mem_cons_of_mem _ hc)]
      simp only [consPiece, hx]
  rw [runs, runs, hcut]

/-! ## Newer capitals

The index knows more capitals than the pattern. None of them is a letter of a pattern, so for those
letters the two tables agree. -/

/-- A code point in none of the runs stays as it is. -/
theorem lowerCode_of_none {runs : List CaseRun} {n : Nat} (h : ∀ r ∈ runs, r.lower? n = none) :
    lowerCode n runs = n := by
  induction runs with
  | nil => rfl
  | cons r runs ih =>
    rw [lowerCode, h r List.mem_cons_self, ih fun r hr => h r (List.mem_cons_of_mem _ hr)]
    exact ite_self _

/-- A number in a list of ranges is in one of them. -/
theorem exists_range_of_inRanges {n : Nat} {ranges : List (Nat × Nat)}
    (h : inRanges n ranges = true) : ∃ range ∈ ranges, range.1 ≤ n ∧ n ≤ range.2 := by
  induction ranges with
  | nil => exact absurd h Bool.false_ne_true
  | cons range ranges ih =>
    rw [inRanges] at h
    by_cases hbelow : n < range.1
    · rw [if_pos hbelow] at h
      exact absurd h Bool.false_ne_true
    · rw [if_neg hbelow] at h
      by_cases hin : n ≤ range.2
      · exact ⟨range, List.mem_cons_self, Nat.le_of_not_lt hbelow, hin⟩
      · rw [if_neg hin] at h
        obtain ⟨found, hmem, hfound⟩ := ih h
        exact ⟨found, List.mem_cons_of_mem _ hmem, hfound⟩

/-- The older table has no newer capital. -/
theorem lower?_of_patternLetter {r : CaseRun} (hr : r ∈ newerCapitalRuns) {n : Nat}
    (hn : inRanges n patternLetters.ranges = true) : r.lower? n = none := by
  -- only where a range and a run overlap is anything to be looked at
  have hall : ∀ r ∈ newerCapitalRuns, ∀ range ∈ patternLetters.ranges,
      ∀ n ∈ List.range' (max r.first range.1)
        (min r.last range.2 + 1 - max r.first range.1), r.lower? n = none := by
    decide +kernel
  obtain ⟨range, hrange, hfirst, hlast⟩ := exists_range_of_inRanges hn
  by_cases hin : r.first ≤ n ∧ n ≤ r.last
  · refine hall r hr range hrange n ?_
    rw [List.mem_range'_1]
    omega
  · exact if_neg fun h => hin ⟨h.1, h.2.1⟩

/-- In lower case the two editions agree on the letters of the older table. -/
theorem lowerCharNewer_of_patternLetter (hc : patternLetters.contains c = true) :
    lowerCharNewer c = lowerChar c := by
  have hnewer : lowerCode c.toNat newerCapitalRuns = c.toNat :=
    lowerCode_of_none fun r hr => lower?_of_patternLetter hr hc
  unfold lowerCharNewer lowerChar
  by_cases hsame : lowerBy capitalRuns c = [c]
  · have hdot : c ≠ '\u0130' := by
      rintro rfl
      exact absurd hsame (by decide +kernel)
    dsimp only
    rw [if_pos hsame, hsame, lowerBy, if_neg hdot, hnewer, Char.ofNat_toNat]
  · exact if_neg hsame

/-! ## Final sigmas

A sigma is final if a letter stands before it and none behind, where some characters are passed
over. -/

/-- In a text behind `before`, which is listed last first, a capital sigma ends a word: a cased
letter is met before it, and none after it. -/
def FinalSigma (before text : List Char) : Prop :=
  ∃ xs ys, text = xs ++ 'Σ' :: ys ∧ meetsCased (xs.reverse ++ before) = true ∧
    meetsCased ys = false

theorem not_finalSigma_nil (before : List Char) : ¬ FinalSigma before [] := by
  rintro ⟨xs, ys, h, -⟩
  exact absurd h (by simp)

/-- Where no sigma is, none is final. -/
theorem not_finalSigma_of_not_mem {before : List Char} (h : 'Σ' ∉ text) :
    ¬ FinalSigma before text := by
  rintro ⟨xs, ys, rfl, -⟩
  exact h (by simp)

/-- A final sigma is the first character, or one of the others. -/
theorem finalSigma_cons (before : List Char) (c : Char) (text : List Char) :
    FinalSigma before (c :: text) ↔
      (c = 'Σ' ∧ meetsCased before = true ∧ meetsCased text = false) ∨
        FinalSigma (c :: before) text := by
  -- the sigma is the first character, or it stands further back
  constructor
  · rintro ⟨_ | ⟨x, xs⟩, ys, h, hbefore, hafter⟩
    · obtain ⟨rfl, rfl⟩ := List.cons.inj h
      exact .inl ⟨rfl, hbefore, hafter⟩
    · obtain ⟨rfl, rfl⟩ := List.cons.inj h
      refine .inr ⟨xs, ys, rfl, ?_, hafter⟩
      rw [List.reverse_cons, List.append_assoc, List.singleton_append] at hbefore
      exact hbefore
  · rintro (⟨rfl, hbefore, hafter⟩ | ⟨xs, ys, rfl, hbefore, hafter⟩)
    · exact ⟨[], text, rfl, hbefore, hafter⟩
    · refine ⟨c :: xs, ys, rfl, ?_, hafter⟩
      rw [List.reverse_cons, List.append_assoc, List.singleton_append]
      exact hbefore

/-! ## The two lower cases

Lowering a word as a whole and letter by letter differ in final sigmas and in nothing else. The
lengths of what letters become decide where a difference would have to stand. -/

/-- What is done already stands in front. -/
theorem lowerFrom_eq (before done text : List Char) :
    lowerFrom before done text = done.reverse ++ lowerFrom before [] text := by
  induction text generalizing before done with
  | nil => rw [lowerFrom, lowerFrom, List.reverse_nil, List.append_nil]
  | cons c text ih =>
    rw [lowerFrom, lowerFrom, ih, ih _ (_ ++ []), List.reverse_append, List.reverse_reverse,
      List.append_nil, List.reverse_reverse, List.append_assoc]

/-- The lower case of a text is that of its first character, followed by that of the others. -/
theorem lowerFrom_cons (before : List Char) (c : Char) (text : List Char) :
    lowerFrom before [] (c :: text) =
      lowerBetween before c text ++ lowerFrom (c :: before) [] text := by
  rw [lowerFrom, lowerFrom_eq, List.append_nil, List.reverse_reverse]

theorem lowerCharNewer_sigma : lowerCharNewer 'Σ' = ['σ'] := by
  decide +kernel

/-- A letter of the older table has its own lower case between others, unless it is a final sigma.
-/
theorem lowerBetween_eq_iff (hc : patternLetters.contains c = true) (before text : List Char) :
    lowerBetween before c text = lowerCharNewer c ↔
      ¬ (c = 'Σ' ∧ meetsCased before = true ∧ meetsCased text = false) := by
  by_cases hsigma : c = 'Σ'
  · rw [lowerBetween, if_pos hsigma, hsigma, lowerCharNewer_sigma]
    rcases meetsCased before <;> rcases meetsCased text <;> decide
  · rw [lowerBetween, if_neg hsigma, lowerCharNewer_of_patternLetter hc]
    exact iff_of_true rfl fun h => hsigma h.1

/-- The forms of a letter are equally long. -/
theorem length_lowerBetween (hc : patternLetters.contains c = true) (before text : List Char) :
    (lowerBetween before c text).length = (lowerCharNewer c).length := by
  by_cases hsigma : c = 'Σ'
  · rw [lowerBetween, if_pos hsigma, hsigma, lowerCharNewer_sigma]
    rcases meetsCased before <;> rcases meetsCased text <;> rfl
  · rw [lowerBetween, if_neg hsigma, lowerCharNewer_of_patternLetter hc]

/-- **The two lower cases differ at final sigmas only**, in a text of letters of the older table. -/
theorem lowerFrom_eq_lowerEach_iff (h : ∀ c ∈ text, patternLetters.contains c = true)
    (before : List Char) :
    lowerFrom before [] text = lowerEach text ↔ ¬ FinalSigma before text := by
  induction text generalizing before with
  | nil => exact iff_of_true rfl (not_finalSigma_nil before)
  | cons c text ih =>
    have hc : patternLetters.contains c = true := h c List.mem_cons_self
    have hlength := length_lowerBetween hc before text
    have hrest := ih (fun x hx => h x (List.mem_cons_of_mem _ hx)) (c :: before)
    have heach : lowerEach (c :: text) = lowerCharNewer c ++ lowerEach text := List.flatMap_cons
    rw [lowerFrom_cons, heach, finalSigma_cons, not_or, ← lowerBetween_eq_iff hc, ← hrest]
    constructor
    · exact fun heq => List.append_inj heq hlength
    · rintro ⟨hfirst, hothers⟩
      rw [hfirst, hothers]

theorem lowerChars_eq_lowerEach_iff (h : ∀ c ∈ word, patternLetters.contains c = true) :
    lowerChars word = lowerEach word ↔ ¬ FinalSigma [] word :=
  lowerFrom_eq_lowerEach_iff h []

/-! ## Plain text

On ASCII the two sorts of letters are the same. -/

/-- On the first 128 characters the two tables agree. -/
theorem patternLetters_eq_indexLetters (hc : c.toNat < 128) :
    patternLetters.contains c = indexLetters.contains c := by
  have hall : ∀ n < 128, inRanges n patternLetters.ranges = inRanges n indexLetters.ranges := by
    decide +kernel
  exact hall c.toNat hc

end CodeCatalog.Text
