/-
Lower case gives no signs.

A sign is one of the first 128 characters that is neither a letter nor a digit. No capital has a
sign as its lower case, so the signs of a text in lower case were in it before, and no table of
letters has one. What words come to in lower case therefore has no signs, whichever of the two lower
cases it is.
-/
import CodeCatalog.Proofs.Text.Case

set_option autoImplicit false

namespace CodeCatalog.Text

variable {runs : List CaseRun} {n : Nat} {c d : Char} {before text : List Char}

/-- The code point of a sign. -/
def IsSign (n : Nat) : Prop :=
  n < 0x80 ∧ ¬ (0x30 ≤ n ∧ n ≤ 0x39) ∧ ¬ (0x41 ≤ n ∧ n ≤ 0x5A) ∧ ¬ (0x61 ≤ n ∧ n ≤ 0x7A)

instance (n : Nat) : Decidable (IsSign n) := inferInstanceAs (Decidable (_ ∧ _))

/-! ## Lower case

Signs are no letters and have no case. So none appears in a lowered text that was not there. -/

/-- Runs that give characters, and no signs. -/
def Signless (runs : List CaseRun) : Prop :=
  ∀ r ∈ runs, 0 ≤ (r.first : Int) + r.shift ∧ r.last + r.shift < 0x110000 ∧
    (r.last + r.shift < 0xD800 ∨ 0xDFFF < r.first + r.shift) ∧
    (0x80 ≤ r.first + r.shift ∨ 0x61 ≤ r.first + r.shift ∧ r.last + r.shift ≤ 0x7A)

theorem signless_capitalRuns : Signless capitalRuns := by
  unfold Signless
  decide +kernel

theorem signless_newerCapitalRuns : Signless newerCapitalRuns := by
  unfold Signless
  decide +kernel

/-- A sign that is the lower case of a character is the character. -/
theorem eq_of_sign_lowerBy (hruns : Signless runs) (hd : d ∈ lowerBy runs c)
    (hsign : IsSign d.toNat) : d = c := by
  rw [lowerBy] at hd
  split at hd
  · have hall : ∀ d ∈ ['i', '\u0307'], ¬ IsSign d.toNat :=
      List.forall_mem_cons.mpr ⟨by decide, List.forall_mem_singleton.mpr (by decide)⟩
    exact absurd hsign (hall d hd)
  · rw [List.mem_singleton.mp hd] at hsign ⊢
    rcases lowerCode_cases c.toNat runs with hsame | ⟨r, hr, hlow⟩
    · rw [hsame, Char.ofNat_toNat]
    · -- what a run gives is a character, and lies with the small letters or behind all signs
      obtain ⟨hpositive, hbound, hgap, hoff⟩ := hruns r hr
      obtain ⟨⟨hfirst, hlast⟩, hcode⟩ := mem_image_of_lower? hlow
      have hvalid : (lowerCode c.toNat runs).isValidChar := by
        rw [Nat.isValidChar]
        omega
      rw [Char.toNat_ofNat, if_pos hvalid, IsSign] at hsign
      omega

/-- A sign in the lower case of a character is the character. -/
theorem eq_of_sign_lowerCharNewer (hd : d ∈ lowerCharNewer c) (hsign : IsSign d.toNat) : d = c := by
  rw [lowerCharNewer] at hd
  split at hd
  · exact eq_of_sign_lowerBy signless_newerCapitalRuns hd hsign
  · exact eq_of_sign_lowerBy signless_capitalRuns hd hsign

/-- So it is in the lower case between other characters. -/
theorem eq_of_sign_lowerBetween (hd : d ∈ lowerBetween before c text) (hsign : IsSign d.toNat) :
    d = c := by
  rw [lowerBetween] at hd
  split at hd
  · have hall : ∀ d ∈ ['ς', 'σ'], ¬ IsSign d.toNat :=
      List.forall_mem_cons.mpr ⟨by decide, List.forall_mem_singleton.mpr (by decide)⟩
    refine absurd hsign (hall d ?_)
    split at hd
    · exact List.mem_cons.mpr (.inl (List.mem_singleton.mp hd))
    · exact List.mem_cons_of_mem _ hd
  · exact eq_of_sign_lowerBy signless_capitalRuns hd hsign

/-- **The signs of a text in lower case were in the text.** -/
theorem mem_of_sign_lowerFrom (hd : d ∈ lowerFrom before [] text) (hsign : IsSign d.toNat) :
    d ∈ text := by
  induction text generalizing before with
  | nil => exact absurd hd List.not_mem_nil
  | cons c text ih =>
    rw [lowerFrom_cons] at hd
    rcases List.mem_append.mp hd with hd | hd
    · rw [eq_of_sign_lowerBetween hd hsign]
      exact List.mem_cons_self
    · exact List.mem_cons_of_mem _ (ih hd)

theorem mem_of_sign_lowerEach (hd : d ∈ lowerEach text) (hsign : IsSign d.toNat) : d ∈ text := by
  obtain ⟨c, hc, hd⟩ := List.mem_flatMap.mp hd
  rwa [eq_of_sign_lowerCharNewer hd hsign]

/-! ## Letters

The two tables of letters have no sign in them, by evaluation over their ranges. -/

/-- The table of a pattern has no signs. -/
theorem not_sign_of_patternLetter (hc : patternLetters.contains c = true) : ¬ IsSign c.toNat := by
  have hall : ∀ n < 0x80, inRanges n patternLetters.ranges = true → ¬ IsSign n := by decide +kernel
  exact fun hsign => hall c.toNat hsign.1 hc hsign

/-- Nor has the table of an index. -/
theorem not_sign_of_indexLetter (hc : indexLetters.contains c = true) : ¬ IsSign c.toNat := by
  intro hsign
  rw [← patternLetters_eq_indexLetters hsign.1] at hc
  exact not_sign_of_patternLetter hc hsign

end CodeCatalog.Text
