/-
Plain words in lower case.

A text that has been lowered can only become a plain word by lowering it again if it is that word
already: the capitals whose lower case is a plain letter are the plain capitals and the sign for
kelvin, and lower case gives none of them.
-/
import CodeCatalog.Proofs.Text.Words
import Mathlib

set_option autoImplicit false

namespace CodeCatalog.Text

/-- A character of a plain word: a small letter of the Latin alphabet, or a low line. -/
def IsPlain (c : Char) : Prop :=
  0x61 ≤ c.toNat ∧ c.toNat ≤ 0x7A ∨ c = '_'

instance (c : Char) : Decidable (IsPlain c) := inferInstanceAs (Decidable (_ ∨ _))

/-- The code point of a capital of a plain letter: the sign for kelvin is one. -/
def IsPlainCapital (n : Nat) : Prop :=
  0x41 ≤ n ∧ n ≤ 0x5A ∨ n = 0x212A

instance (n : Nat) : Decidable (IsPlainCapital n) := inferInstanceAs (Decidable (_ ∨ _))

/-! ## Runs

The table of the capitals is a list of runs. What it can and cannot give is checked run by run, by
evaluation. -/

variable {r : CaseRun} {n m : Nat}

/-- What a run gives lies as far from its ends as the capital does. -/
theorem mem_image_of_lower? (h : r.lower? n = some m) :
    (r.first ≤ n ∧ n ≤ r.last) ∧ m = (n + r.shift).toNat := by
  rw [CaseRun.lower?, Option.ite_none_right_eq_some] at h
  obtain ⟨⟨hfirst, hlast, -⟩, hm⟩ := h
  exact ⟨⟨hfirst, hlast⟩, (Option.some.inj hm).symm⟩

/-- No run gives a plain capital. -/
theorem not_plainCapital_of_lower? (hr : r ∈ capitalRuns) (h : r.lower? n = some m) :
    ¬ IsPlainCapital m := by
  have hall : ∀ r ∈ capitalRuns, 0 ≤ (r.first : Int) + r.shift ∧
      (r.last + r.shift < 0x41 ∨ 0x5A < r.first + r.shift) ∧
      (r.last + r.shift < 0x212A ∨ 0x212A < r.first + r.shift) := by
    decide +kernel
  obtain ⟨hpositive, hletters, hkelvin⟩ := hall r hr
  obtain ⟨⟨hfirst, hlast⟩, rfl⟩ := mem_image_of_lower? h
  rintro (⟨hlow, hhigh⟩ | hm)
  · omega
  · omega

/-- Only a plain capital is given a plain letter. -/
theorem plainCapital_of_lower? (hr : r ∈ capitalRuns) (h : r.lower? n = some m)
    (hm : IsPlain (Char.ofNat m)) : IsPlainCapital n := by
  -- a property of the table, checked run by run: no run but that of the capitals and that of the
  -- Kelvin sign ends among the plain characters
  have hall : ∀ r ∈ capitalRuns, 0 ≤ (r.first : Int) + r.shift ∧ r.last + r.shift < 0x110000 ∧
      (0x7A < r.first + r.shift ∨ r.first = 0x41 ∧ r.last = 0x5A ∨
        r.first = 0x212A ∧ r.last = 0x212A) ∧
      (r.last + r.shift < 0xD800 ∨ 0xDFFF < r.first + r.shift) := by
    decide +kernel
  obtain ⟨hpositive, hbound, hruns, hgap⟩ := hall r hr
  obtain ⟨⟨hfirst, hlast⟩, rfl⟩ := mem_image_of_lower? h
  have hvalid : (n + r.shift).toNat.isValidChar := by
    rw [Nat.isValidChar]
    omega
  rw [IsPlain, Char.toNat_ofNat, if_pos hvalid] at hm
  have hline : (n + r.shift).toNat ≤ 0x7A := by
    rcases hm with ⟨-, hm⟩ | hm
    · exact hm
    · have hcode := congrArg Char.toNat hm
      rw [Char.toNat_ofNat, if_pos hvalid] at hcode
      exact hcode ▸ (by decide)
  rw [IsPlainCapital]
  omega

/-- A code point stays what it is or becomes what some run gives. -/
theorem lowerCode_cases (n : Nat) (runs : List CaseRun) :
    lowerCode n runs = n ∨ ∃ r ∈ runs, r.lower? n = some (lowerCode n runs) := by
  induction runs with
  | nil => exact .inl rfl
  | cons r runs ih =>
    rw [lowerCode]
    split
    · exact .inl rfl
    · split
      · rename_i m hm
        exact .inr ⟨r, List.mem_cons_self, hm⟩
      · refine ih.imp_right ?_
        rintro ⟨r', hr', h⟩
        exact ⟨r', List.mem_cons_of_mem _ hr', h⟩

/-- A plain capital has another lower case. -/
theorem lowerCode_ne (h : IsPlainCapital n) : lowerCode n capitalRuns ≠ n := by
  have hall : ∀ n ∈ 0x212A :: List.range' 0x41 26, lowerCode n capitalRuns ≠ n := by
    decide +kernel
  refine hall n ?_
  rw [List.mem_cons, List.mem_range'_1]
  exact h.symm.imp_right fun h => by omega

/-! ## Texts

Lowering a text may give several characters for one, and a sigma looks around. Neither makes an
ASCII capital. -/

variable {c d : Char} {before text : List Char}

/-- A character has no ASCII capital in its lower case. -/
theorem not_plainCapital_of_mem_lowerChar (hd : d ∈ lowerChar c) : ¬ IsPlainCapital d.toNat := by
  rw [lowerChar, lowerBy] at hd
  split at hd
  · have hall : ∀ d ∈ ['i', '\u0307'], ¬ IsPlainCapital d.toNat :=
      List.forall_mem_cons.mpr ⟨by decide, List.forall_mem_singleton.mpr (by decide)⟩
    exact hall d hd
  · rw [List.mem_singleton.mp hd]
    rcases lowerCode_cases c.toNat capitalRuns with hsame | ⟨r, hr, hlow⟩
    · rw [hsame, Char.ofNat_toNat]
      exact fun h => lowerCode_ne h hsame
    · rw [Char.toNat_ofNat]
      split
      · exact not_plainCapital_of_lower? hr hlow
      · decide

/-- Nor has one in a text, whatever stands around it. -/
theorem not_plainCapital_of_mem_lowerFrom (hd : d ∈ lowerFrom before [] text) :
    ¬ IsPlainCapital d.toNat := by
  induction text generalizing before with
  | nil => exact absurd hd List.not_mem_nil
  | cons c text ih =>
    rw [lowerFrom_cons] at hd
    rcases List.mem_append.mp hd with hd | hd
    -- a character gives a sigma or its own lowering, and neither has a plain capital in it
    · rw [lowerBetween] at hd
      split at hd
      · have hall : ∀ sigma ∈ ['ς', 'σ'], ¬ IsPlainCapital sigma.toNat :=
          List.forall_mem_cons.mpr ⟨by decide, List.forall_mem_singleton.mpr (by decide)⟩
        refine hall d ?_
        split at hd
        · exact List.mem_cons.mpr (.inl (List.mem_singleton.mp hd))
        · exact List.mem_cons_of_mem _ hd
      · exact not_plainCapital_of_mem_lowerChar hd
    · exact ih hd

/-- A text in lower case has no plain capitals. -/
theorem not_plainCapital_of_mem_lower {s : String} (hd : d ∈ (lower s).toList) :
    ¬ IsPlainCapital d.toNat := by
  rw [lower, String.toList_ofList] at hd
  exact not_plainCapital_of_mem_lowerFrom hd

/-- What gives plain characters and is no plain capital is what it gives. -/
theorem lowerBetween_of_plain (hc : ¬ IsPlainCapital c.toNat)
    (hplain : ∀ d ∈ lowerBetween before c text, IsPlain d) : lowerBetween before c text = [c] := by
  rw [lowerBetween] at hplain ⊢
  split
  · rename_i hsigma
    rw [if_pos hsigma] at hplain
    split at hplain <;> exact absurd (hplain _ List.mem_cons_self) (by decide)
  · rename_i hsigma
    rw [if_neg hsigma, lowerChar, lowerBy] at hplain
    rw [lowerChar, lowerBy]
    -- the dotted capital leaves a mark behind, which is not plain
    split
    · rename_i hdot
      rw [if_pos hdot] at hplain
      exact absurd (hplain '\u0307' (by decide)) (by decide)
    · rename_i hdot
      rw [if_neg hdot] at hplain
      rcases lowerCode_cases c.toNat capitalRuns with hsame | ⟨r, hr, hlow⟩
      · rw [hsame, Char.ofNat_toNat]
      · exact absurd (plainCapital_of_lower? hr hlow (hplain _ List.mem_cons_self)) hc

/-- A text whose lower case is ASCII, and that has no ASCII capitals, is its own lower case. -/
theorem lowerFrom_of_plain (htext : ∀ c ∈ text, ¬ IsPlainCapital c.toNat)
    (hplain : ∀ d ∈ lowerFrom before [] text, IsPlain d) : lowerFrom before [] text = text := by
  induction text generalizing before with
  | nil => rfl
  | cons c text ih =>
    obtain ⟨hc, htext⟩ := List.forall_mem_cons.mp htext
    rw [lowerFrom_cons] at hplain ⊢
    obtain ⟨hfirst, hrest⟩ := List.forall_mem_append.mp hplain
    rw [lowerBetween_of_plain hc hfirst, ih htext hrest, List.singleton_append]

/-- **A text without plain capitals is the plain word that is its lower case.** -/
theorem lower_of_plain {s : String} (hs : ∀ c ∈ s.toList, ¬ IsPlainCapital c.toNat)
    (hplain : ∀ d ∈ (lower s).toList, IsPlain d) : lower s = s := by
  rw [lower, String.toList_ofList] at hplain
  rw [lower, lowerChars, lowerFrom_of_plain hs hplain, String.ofList_toList]

end CodeCatalog.Text
