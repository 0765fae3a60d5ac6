/-
What a text is analyzed into: its runs of letters and numerals, the long ones left out, each in
lower case as a word of its own.

No term depends on anything outside its run. So a character that is no letter and no numeral parts
the analysis: the terms of the whole are those of the text before it, followed by those of the text
behind it. The lower case of a word looks around capital sigmas (`lowerBetween`), but no further
than the word goes, and the bytes of a word are counted before it is put into lower case.
-/
import CodeCatalog.Proofs.Text.Runs
import CodeCatalog.Search.Term

set_option autoImplicit false

namespace CodeCatalog.Search

open Text

/-- The length of a word in bytes is that of its text. -/
theorem byteLength_eq (word : List Char) : byteLength word = (String.ofList word).utf8ByteSize := by
  induction word with
  | nil => rfl
  | cons c word ih =>
    have hcons : String.ofList (c :: word) = String.singleton c ++ String.ofList word := by
      rw [← String.toList_inj, String.toList_append, String.toList_ofList, String.toList_ofList,
        String.toList_singleton, List.singleton_append]
    rw [hcons, String.utf8ByteSize_append, String.utf8ByteSize_singleton, ← ih]
    rfl

/-- The terms of a pattern, told by its runs as texts. -/
theorem patternTerms_eq (text : String) :
    patternTerms text = (((runs patternLetters.contains text.toList).map String.ofList).filter
      fun word => word.utf8ByteSize < maxTermBytes).map lower := by
  have hshort : ((fun word : String => decide (word.utf8ByteSize < maxTermBytes)) ∘ String.ofList) =
      isShort := by
    funext word
    simp only [Function.comp_apply, isShort, byteLength_eq]
  rw [patternTerms, List.filter_map, hshort, List.map_map]
  apply List.map_congr_left
  intro word _
  rw [Function.comp_apply, lower, String.toList_ofList]

/-- A character that is no letter parts a pattern, and each part has its own terms. -/
theorem patternTerms_parted {c : Char} (hc : patternLetters.contains c = false) (a b : String) :
    patternTerms (a ++ String.singleton c ++ b) = patternTerms a ++ patternTerms b := by
  have hparted : (a ++ String.singleton c ++ b).toList = a.toList ++ c :: b.toList := by
    rw [String.toList_append, String.toList_append, String.toList_singleton, List.append_assoc,
      List.singleton_append]
  rw [patternTerms_eq, hparted, runs_parted hc, List.map_append, List.filter_append,
    List.map_append, ← patternTerms_eq, ← patternTerms_eq]

/-- **Analysis is compositional.** The terms of a text are its runs of letters and numerals, in
order, each once, those of 40 bytes and more left out, each in lower case as a text of its own; an
underscore is neither. A character that is neither parts the text: the terms, and with them the
runs, are those of what is before it and then those of what is behind it. -/
theorem patternTerms_compositional :
    (∀ text : String, ∃ places : List (Nat × Nat),
      ListsRuns patternLetters.contains text.toList places ∧
      patternTerms text = ((places.map fun r => String.ofList (text.toList.extract r.1 r.2)).filter
        fun word => word.utf8ByteSize < 40).map lower) ∧
    patternLetters.contains '_' = false ∧
    ∀ (a b : String) (c : Char), patternLetters.contains c = false →
      patternTerms (a ++ String.singleton c ++ b) = patternTerms a ++ patternTerms b ∧
      ∀ i j, IsRun patternLetters.contains (a.toList ++ c :: b.toList) i j ↔
        IsRun patternLetters.contains a.toList i j ∨
        ∃ i' j', i = a.toList.length + 1 + i' ∧ j = a.toList.length + 1 + j' ∧
          IsRun patternLetters.contains b.toList i' j' := by
  -- the places of a text are those of its words; that it parts at a character that is no letter is
  -- a fact about runs alone
  refine ⟨fun text => ?_, by decide +kernel, fun a b c hc => ⟨patternTerms_parted hc a b, ?_⟩⟩
  · obtain ⟨places, hplaces, hruns⟩ := exists_places patternLetters.contains text.toList
    refine ⟨places, hplaces, ?_⟩
    rw [patternTerms_eq, hruns, List.map_map]
    rfl
  · exact fun i j => isRun_parted hc

/-- Two Greek words on either side of an underscore, each with a sigma at its end. -/
theorem patternTerms_compositional_sigmas :
    patternLetters.contains '_' = false ∧
    patternTerms ("ΟΔΟΣ" ++ String.singleton '_' ++ "ΑΣ") = ["οδος", "ας"] := by
  have hparted := (patternTerms_compositional.2.2 "ΟΔΟΣ" "ΑΣ" '_' (by decide +kernel)).1
  refine ⟨by decide +kernel, hparted.trans ?_⟩
  decide +kernel

end CodeCatalog.Search
