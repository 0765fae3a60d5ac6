/-
Lower case of a text that stands within another.

A text in lower case does not always stand in the lower case of what holds it: a capital sigma looks
around itself, past the ends of the text. `lowerWithin` is the lower case of a text between two
others, and it is the lower case of the text alone just if every capital sigma of it ends a word
there where it ends one alone (`lowerWithin_eq_iff`).

A text is settled if this is so between any two others. No more than a letter before or behind it is
needed to see that it is not, and then the lower case is nowhere in that of the longer text, not
even beside the place (`settled_iff`).

Characters in lower case one by one are marked with whether a capital sigma ends a word there, and
the marks give back the forms that the whole has (`map_formOf_lowerMarked`). Where a text stands in
another one by one, the two need the same marks to be alike as wholes (`marked_prefix_iff`).
-/
import CodeCatalog.Proofs.Text.Words

set_option autoImplicit false

namespace CodeCatalog.Text

variable {before after before' after' text pattern : List Char} {c : Char}

/-! ## A text between two others

A text that is lowered inside another one may come out differently than alone, since a sigma looks
at what stands before and behind. `lowerWithin` is the text in its place. -/

/-- Whether a capital sigma between two texts ends a word. The text before it is listed last first.
-/
def endsWord (before after : List Char) : Bool :=
  meetsCased before && !meetsCased after

/-- Lower case of a text between two others, of which the one before is listed last first. -/
def lowerWithin (before : List Char) : List Char → List Char → List Char
  | [], _ => []
  | c :: text, after =>
    lowerBetween before c (text ++ after) ++ lowerWithin (c :: before) text after

/-- A text is lowered as its first part in sight of the second, and the second behind the first. -/
theorem lowerFrom_append (before xs ys : List Char) :
    lowerFrom before [] (xs ++ ys) =
      lowerWithin before xs ys ++ lowerFrom (xs.reverse ++ before) [] ys := by
  induction xs generalizing before with
  | nil => rfl
  | cons x xs ih =>
    rw [List.cons_append, lowerFrom_cons, ih, lowerWithin, List.append_assoc, List.reverse_cons,
      List.append_assoc, List.singleton_append]

/-- With nothing behind it a text is lowered as such. -/
theorem lowerWithin_nil (before text : List Char) :
    lowerWithin before text [] = lowerFrom before [] text := by
  have h := lowerFrom_append before text []
  rw [List.append_nil] at h
  rw [h]
  exact (List.append_nil _).symm

/-! ## Sigmas

Only sigmas look around, and they come out in one of two forms. So two places agree on a text just
if they agree on its sigmas. -/

/-- Every capital sigma of a text ends a word between two texts where it ends one between two
others. -/
def SigmasAgree (text before after before' after' : List Char) : Prop :=
  ∀ xs ys, text = xs ++ 'Σ' :: ys →
    endsWord (xs.reverse ++ before) (ys ++ after) = endsWord (xs.reverse ++ before') (ys ++ after')

/-- The empty text has no sigmas. -/
theorem sigmasAgree_nil (before after before' after' : List Char) :
    SigmasAgree [] before after before' after' := by
  intro xs ys h
  exact absurd h (by simp)

/-- The sigmas of a text agree just if the first character does, if it is one, and the others do. -/
theorem sigmasAgree_cons : SigmasAgree (c :: text) before after before' after' ↔
    (c = 'Σ' → endsWord before (text ++ after) = endsWord before' (text ++ after')) ∧
      SigmasAgree text (c :: before) after (c :: before') after' := by
  -- a sigma at the front is the case of the empty part before it
  constructor
  · intro h
    refine ⟨?_, fun xs ys htext => ?_⟩
    · rintro rfl
      exact h [] text rfl
    · have hbehind := h (c :: xs) ys (by rw [htext, List.cons_append])
      simpa only [List.reverse_cons, List.append_assoc, List.singleton_append] using hbehind
  · rintro ⟨hfirst, hrest⟩ xs ys htext
    rcases xs with _ | ⟨x, xs⟩
    · obtain ⟨rfl, rfl⟩ := List.cons.inj htext
      exact hfirst rfl
    · obtain ⟨rfl, rfl⟩ := List.cons.inj htext
      simpa only [List.reverse_cons, List.append_assoc, List.singleton_append] using
        hrest xs ys rfl

theorem lowerBetween_sigma (before after : List Char) :
    lowerBetween before 'Σ' after = if endsWord before after then ['ς'] else ['σ'] := rfl

theorem lowerBetween_of_ne (hc : c ≠ 'Σ') (before after : List Char) :
    lowerBetween before c after = lowerChar c := by
  rw [lowerBetween, if_neg hc]

/-- Only a capital sigma looks around itself. -/
theorem lowerBetween_congr_iff : lowerBetween before c after = lowerBetween before' c after' ↔
    (c = 'Σ' → endsWord before after = endsWord before' after') := by
  by_cases hc : c = 'Σ'
  · subst hc
    rw [lowerBetween_sigma, lowerBetween_sigma]
    rcases endsWord before after <;> rcases endsWord before' after' <;> simp
  · rw [lowerBetween_of_ne hc, lowerBetween_of_ne hc]
    exact iff_of_true rfl fun h => absurd h hc

/-- Wherever a character stands, it becomes the same but for the form of a sigma. -/
def foldSigma (c : Char) : Char :=
  if c = 'ς' then 'σ' else c

/-- But for the form of a sigma, a character is lowered alike everywhere. -/
theorem map_foldSigma_lowerBetween (before after before' after' : List Char) (c : Char) :
    (lowerBetween before c after).map foldSigma =
      (lowerBetween before' c after').map foldSigma := by
  by_cases hc : c = 'Σ'
  · subst hc
    rw [lowerBetween_sigma, lowerBetween_sigma]
    rcases endsWord before after <;> rcases endsWord before' after' <;> rfl
  · rw [lowerBetween_of_ne hc, lowerBetween_of_ne hc]

/-- But for the forms of its sigmas, a text is lowered alike everywhere. -/
theorem map_foldSigma_lowerWithin (before after before' after' text : List Char) :
    (lowerWithin before text after).map foldSigma =
      (lowerWithin before' text after').map foldSigma := by
  induction text generalizing before before' with
  | nil => rfl
  | cons c text ih =>
    rw [lowerWithin, lowerWithin, List.map_append, List.map_append, ih _ (c :: before'),
      map_foldSigma_lowerBetween _ _ before' (text ++ after')]

/-- **A text has one lower case at two places just if its sigmas agree there.** -/
theorem lowerWithin_eq_iff : lowerWithin before text after = lowerWithin before' text after' ↔
    SigmasAgree text before after before' after' := by
  induction text generalizing before before' with
  | nil => exact iff_of_true rfl (sigmasAgree_nil _ _ _ _)
  | cons c text ih =>
    have hlength : (lowerBetween before c (text ++ after)).length =
        (lowerBetween before' c (text ++ after')).length := by
      have h := congrArg List.length
        (map_foldSigma_lowerBetween before (text ++ after) before' (text ++ after') c)
      rwa [List.length_map, List.length_map] at h
    rw [lowerWithin, lowerWithin, sigmasAgree_cons, ← ih, ← lowerBetween_congr_iff]
    constructor
    · exact fun h => List.append_inj h hlength
    · rintro ⟨hfirst, hrest⟩
      rw [hfirst, hrest]

/-! ## A text within another

If a text stands in another, and agrees with its place on the sigmas, it stands in lower case in the
other's lower case. -/

/-- Every capital sigma of a text ends a word between two texts where it ends one of the text
alone. -/
def StandsAlike (before text after : List Char) : Prop :=
  SigmasAgree text before.reverse after [] []

/-- **Where its sigmas agree, a text in lower case stands in the lower case of the whole.** -/
theorem StandsAlike.lowerChars_stands (h : StandsAlike before text after) :
    lowerChars text <:+: lowerChars (before ++ text ++ after) := by
  have hsame : lowerWithin before.reverse text after = lowerChars text := by
    rw [lowerChars, ← lowerWithin_nil, lowerWithin_eq_iff]
    exact h
  rw [← hsame, lowerChars, List.append_assoc, lowerFrom_append [] before, lowerFrom_append _ text,
    List.append_nil, ← List.append_assoc]
  exact List.infix_append _ _ _

/-! ## Character by character

The converse needs more: a lowered text may be found at a place where the text did not stand.
Marking the sigmas keeps them apart while everything else is lowered. -/

/-- Lower case of characters, each on its own. -/
def lowerSingly (text : List Char) : List Char :=
  text.flatMap lowerChar

/-- Lower case of characters, each on its own, in a text between two others. With each comes whether
it is of a capital sigma that ends a word. -/
def lowerMarked (before : List Char) : List Char → List Char → List (Char × Bool)
  | [], _ => []
  | c :: text, after =>
    (lowerChar c).map (·, c = 'Σ' && endsWord before (text ++ after)) ++
      lowerMarked (c :: before) text after

/-- The form that a marked character takes. -/
def formOf (marked : Char × Bool) : Char :=
  if marked.2 then 'ς' else marked.1

/-- Without its marks a lowered text is lowered character by character. -/
theorem map_fst_lowerMarked (before text after : List Char) :
    (lowerMarked before text after).map Prod.fst = lowerSingly text := by
  induction text generalizing before with
  | nil => rfl
  | cons c text ih =>
    have hcons : lowerSingly (c :: text) = lowerChar c ++ lowerSingly text := List.flatMap_cons
    rw [lowerMarked, List.map_append, ih, hcons, List.map_map]
    exact congrArg (· ++ lowerSingly text) (List.map_id _)

/-- With each mark turned into a form it is the text in its place. -/
theorem map_formOf_lowerMarked (before text after : List Char) :
    (lowerMarked before text after).map formOf = lowerWithin before text after := by
  induction text generalizing before with
  | nil => rfl
  | cons c text ih =>
    rw [lowerMarked, List.map_append, ih, lowerWithin, List.map_map]
    refine congrArg (· ++ lowerWithin (c :: before) text after) ?_
    by_cases hc : c = 'Σ'
    · have hsigma : lowerChar 'Σ' = ['σ'] := by decide +kernel
      subst hc
      rw [lowerBetween_sigma, hsigma]
      cases endsWord before (text ++ after) <;> rfl
    · rw [lowerBetween_of_ne hc, decide_eq_false hc]
      exact List.map_id _

/-- **A text that stands in another character by character, with the same sigmas ending words,
stands in it in lower case.** -/
theorem lowerChars_stands_of_marked (h : lowerMarked [] pattern [] <:+: lowerMarked [] text []) :
    lowerChars pattern <:+: lowerChars text := by
  have hforms := h.map formOf
  rwa [map_formOf_lowerMarked, map_formOf_lowerMarked, lowerWithin_nil, lowerWithin_nil] at hforms

/-- Only small sigmas are marked. -/
theorem eq_sigma_of_marked {marked : Char × Bool} (h : marked ∈ lowerMarked before text after)
    (hends : marked.2 = true) : marked.1 = 'σ' := by
  induction text generalizing before with
  | nil => exact absurd h List.not_mem_nil
  | cons c text ih =>
    rcases List.mem_append.mp h with h | h
    · obtain ⟨d, hd, rfl⟩ := List.mem_map.mp h
      obtain rfl : c = 'Σ' := of_decide_eq_true (Bool.and_eq_true_iff.mp hends).1
      have hsigma : lowerChar 'Σ' = ['σ'] := by decide +kernel
      rw [hsigma] at hd
      exact List.mem_singleton.mp hd
    · exact ih h

/-- Of marked characters, what each is on its own and the form it takes tell the mark. -/
theorem eq_of_forms {ms ns : List (Char × Bool)} (hms : ∀ m ∈ ms, m.2 = true → m.1 = 'σ')
    (hns : ∀ n ∈ ns, n.2 = true → n.1 = 'σ') (hfst : ms.map Prod.fst = ns.map Prod.fst)
    (hform : ms.map formOf = ns.map formOf) : ms = ns := by
  induction ms generalizing ns with
  | nil => exact (List.map_eq_nil_iff.mp hfst.symm).symm
  | cons m ms ih =>
    cases ns with
    | nil => exact absurd hfst (by simp)
    | cons n ns =>
      obtain ⟨hfirst, hrest⟩ := List.cons.inj hfst
      obtain ⟨hformFirst, hformRest⟩ := List.cons.inj hform
      obtain ⟨hm, hms⟩ := List.forall_mem_cons.mp hms
      obtain ⟨hn, hns⟩ := List.forall_mem_cons.mp hns
      -- the mark tells the two sigmas apart, and no other character has one
      have hmark : m = n := by
        obtain ⟨c, b⟩ := m
        obtain ⟨d, b'⟩ := n
        obtain rfl : c = d := hfirst
        rcases b <;> rcases b' <;> simp_all [formOf]
      rw [hmark, ih hms hns hrest hformRest]

/-- **At a place where a text stands in another character by character, it stands in lower case just
if the same sigmas end words.** -/
theorem marked_prefix_iff {front rest : List (Char × Bool)}
    (htext : lowerMarked [] text [] = front ++ rest)
    (hstands : lowerSingly pattern <+: rest.map Prod.fst) :
    lowerChars pattern <+: rest.map formOf ↔ lowerMarked [] pattern [] <+: rest := by
  have hlower : (lowerMarked [] pattern []).map formOf = lowerChars pattern := by
    rw [map_formOf_lowerMarked, lowerWithin_nil, lowerChars]
  rw [← map_fst_lowerMarked [] pattern []] at hstands
  rw [← hlower]
  refine ⟨fun hforms => ?_, fun h => h.map formOf⟩
  -- both prefixes have a length, so the marked text is compared up to it
  rw [List.prefix_iff_eq_take, List.length_map, ← List.map_take] at hstands hforms
  rw [List.prefix_iff_eq_take]
  refine eq_of_forms (fun _ => eq_sigma_of_marked) (fun m hm => ?_) hstands hforms
  have hmem : m ∈ lowerMarked [] text [] := by
    rw [htext]
    exact List.mem_append_right _ (List.mem_of_mem_take hm)
  exact eq_sigma_of_marked hmem

/-! ## Settled texts

A text whose sigmas all stand inside of words, between letters, comes out the same everywhere. Texts
without sigmas are of this kind. -/

/-- Whatever stands around a text, its capital sigmas end words where they end words of the text
alone. -/
def Settled (text : List Char) : Prop :=
  ∀ before after, StandsAlike before text after

/-- What is met in a text and what follows it. -/
theorem meetsCased_append (cs ds : List Char) : meetsCased (cs ++ ds) =
    if cs.all caseIgnorable.contains then meetsCased ds else meetsCased cs := by
  induction cs with
  | nil => rfl
  | cons c cs ih =>
    by_cases hc : caseIgnorable.contains c = true
    · have hskip : ∀ rest, meetsCased (c :: rest) = meetsCased rest := by
        intro rest
        rw [meetsCased, meetsCased, List.dropWhile_cons_of_pos hc]
      rw [List.cons_append, hskip, hskip, ih, List.all_cons, hc, Bool.true_and]
    · rw [List.cons_append, List.all_cons, eq_false_of_ne_true hc, Bool.false_and,
        if_neg Bool.false_ne_true, meetsCased, meetsCased, List.dropWhile_cons_of_neg hc,
        List.dropWhile_cons_of_neg hc]

/-- What is passed over meets no letter with a case. -/
theorem meetsCased_of_ignorable {cs : List Char} (h : cs.all caseIgnorable.contains = true) :
    meetsCased cs = false := by
  have hnone := meetsCased_append cs []
  rw [List.append_nil, if_pos h] at hnone
  exact hnone

/-- **One letter tells.** A sigma whose form is not settled takes the other form with a letter right
before the text or right behind it. -/
theorem sigmasAgree_of_letters (hbefore : SigmasAgree text ['A'] [] [] [])
    (hafter : SigmasAgree text [] ['A'] [] []) : Settled text := by
  have hletter : meetsCased ['A'] = true := by decide +kernel
  intro before after xs ys htext
  have h₁ := hbefore xs ys htext
  have h₂ := hafter xs ys htext
  simp only [endsWord, List.append_nil, meetsCased_append, hletter] at h₁ h₂ ⊢
  by_cases hxs : xs.reverse.all caseIgnorable.contains = true
  · -- nothing is met before the sigma: behind a letter it is final unless one follows
    rw [if_pos hxs, meetsCased_of_ignorable hxs] at h₁
    by_cases hys : ys.all caseIgnorable.contains = true
    · rw [meetsCased_of_ignorable hys] at h₁
      exact absurd h₁ (by decide)
    · have hcased : meetsCased ys = true := by simpa using h₁
      rw [if_neg hys, hcased, Bool.not_true, Bool.and_false, Bool.and_false]
  · rw [if_neg hxs]
    by_cases hys : ys.all caseIgnorable.contains = true
    · -- nothing is met behind it, so it loses the final form before a letter
      rw [if_pos hys, meetsCased_of_ignorable hys] at h₂
      have huncased : meetsCased xs.reverse = false := by simpa using h₂.symm
      rw [huncased, Bool.false_and, Bool.false_and]
    · rw [if_neg hys]

/-- A text that begins a letter followed by itself consists of that letter. -/
theorem eq_of_prefix_cons {a : Char} {cs : List Char} (h : cs <+: a :: cs) : ∀ c ∈ cs, c = a := by
  induction cs with
  | nil => exact fun c hc => absurd hc List.not_mem_nil
  | cons c cs ih =>
    obtain ⟨rfl, hrest⟩ := List.cons_prefix_cons.mp h
    exact List.forall_mem_cons.mpr ⟨rfl, ih hrest⟩

/-- A text that is another one but for the forms of its sigmas, and holds one, stands in the other
with a letter before it only if it is the other. -/
theorem eq_of_infix_cons {v w : List Char} (hfold : v.map foldSigma = w.map foldSigma)
    (hsigma : 'σ' ∈ v.map foldSigma) (h : v <:+: 'a' :: w) : v = w := by
  have hlength : v.length = w.length := by
    have hmapped := congrArg List.length hfold
    rwa [List.length_map, List.length_map] at hmapped
  rcases List.infix_cons_iff.mp h with hprefix | hinfix
  · have hfolded : v.map foldSigma <+: 'a' :: v.map foldSigma := by
      have hmap := hprefix.map foldSigma
      rw [List.map_cons, ← hfold] at hmap
      exact hmap
    exact absurd (eq_of_prefix_cons hfolded _ hsigma) (by decide)
  · exact hinfix.eq_of_length hlength

/-- A text that has a capital sigma has a small one in lower case. -/
theorem mem_foldSigma_of_sigma (hsigma : 'Σ' ∈ text) (before after : List Char) :
    'σ' ∈ (lowerWithin before text after).map foldSigma := by
  induction text generalizing before with
  | nil => exact absurd hsigma List.not_mem_nil
  | cons c text ih =>
    rw [lowerWithin, List.map_append]
    rcases List.mem_cons.mp hsigma with rfl | hsigma
    · apply List.mem_append_left
      rw [lowerBetween_sigma]
      split_ifs <;> decide
    · exact List.mem_append_right _ (ih hsigma _)

/-- **Which texts are found in lower case wherever they stand.** -/
theorem settled_iff :
    Settled text ↔ ∀ whole, text <:+: whole → lowerChars text <:+: lowerChars whole := by
  constructor
  · rintro h whole ⟨before, after, rfl⟩
    exact (h before after).lowerChars_stands
  intro h
  by_cases hsigma : 'Σ' ∈ text
  · have halone : lowerWithin [] text [] = lowerChars text := lowerWithin_nil [] text
    have hmem : 'σ' ∈ (lowerChars text).map foldSigma := by
      rw [← halone]
      exact mem_foldSigma_of_sigma hsigma [] []
    have hfold : ∀ before after,
        (lowerChars text).map foldSigma = (lowerWithin before text after).map foldSigma := by
      intro before after
      rw [← halone, map_foldSigma_lowerWithin]
    apply sigmasAgree_of_letters
    · rw [← lowerWithin_eq_iff, halone]
      have hwhole := h ('A' :: text) (List.suffix_cons 'A' text).isInfix
      have hlower : lowerChars ('A' :: text) = 'a' :: lowerWithin ['A'] text [] := by
        rw [lowerChars, lowerFrom_cons, ← lowerWithin_nil ['A'], lowerBetween_of_ne (by decide)]
        rfl
      rw [hlower] at hwhole
      exact (eq_of_infix_cons (hfold _ _) hmem hwhole).symm
    · rw [← lowerWithin_eq_iff, halone]
      have hwhole := h (text ++ ['A']) (List.prefix_append text ['A']).isInfix
      have hlower : lowerChars (text ++ ['A']) = lowerWithin [] text ['A'] ++ ['a'] := by
        rw [lowerChars, lowerFrom_append]
        rfl
      -- read backwards, the letter stands first
      rw [hlower, ← List.reverse_infix, List.reverse_append, List.reverse_singleton,
        List.singleton_append] at hwhole
      have hreverse := eq_of_infix_cons
        (by rw [List.map_reverse, List.map_reverse, hfold [] ['A']])
        (by rw [List.map_reverse, List.mem_reverse]; exact hmem) hwhole
      exact (List.reverse_injective hreverse).symm
  · intro before after xs ys htext
    rw [htext] at hsigma
    exact absurd (by simp) hsigma

end CodeCatalog.Text
