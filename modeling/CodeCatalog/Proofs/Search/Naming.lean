/-
Which elements a search by name finds.

A pattern and an indexed name are taken apart in two ways that are meant to be one. A search by name
finds the elements whose terms the pattern fits (`exists_byName`), so a name finds its own element
where the two ways come to the same terms. They do so for plain text, and for every text which both
tables cut into the same words, unless a capital sigma ends one of them
(`patternTerms_eq_indexTerms_iff`). `found_by_own_name` says it of every open handle, whatever was
done before. Beyond these texts a name may miss its own element (`missed_by_own_name`).
-/
import CodeCatalog.Proofs.Search.Atomicity
import CodeCatalog.Proofs.Search.Expression
import CodeCatalog.Proofs.Search.Origin
import CodeCatalog.Proofs.Text.Words

set_option autoImplicit false

namespace CodeCatalog.Search

open Text

/-! ## Terms

A pattern and a name are cut into words by one rule and lowered by two. They have the same terms
where the sorts of letters agree and no word ends in a final sigma. -/

/-- The words of a text that are short enough to be terms. -/
def wordsOf (letters : RangeTable) (text : String) : List (List Char) :=
  (runs letters.contains text.toList).filter isShort

theorem patternTerms_eq_map (text : String) :
    patternTerms text = (wordsOf patternLetters text).map fun w => String.ofList (lowerChars w) := rfl

theorem indexTerms_eq_map (text : String) :
    indexTerms text = (wordsOf indexLetters text).map fun w => String.ofList (lowerEach w) := rfl

/-- Where the two sorts of letters agree, words are cut alike. -/
theorem words_congr {text : String}
    (h : ∀ c ∈ text.toList, patternLetters.contains c = indexLetters.contains c) :
    wordsOf patternLetters text = wordsOf indexLetters text := by
  rw [wordsOf, wordsOf, runs_congr h]

/-- A word is made of letters of the text. -/
theorem of_mem_words {letters : RangeTable} {text : String} {w : List Char}
    (hw : w ∈ wordsOf letters text) {c : Char} (hc : c ∈ w) :
    c ∈ text.toList ∧ letters.contains c = true :=
  of_mem_runs (List.mem_of_mem_filter hw) hc

/-- **A text that is cut into the same words has the same terms, unless a sigma ends a word.** -/
theorem patternTerms_eq_indexTerms_iff {text : String}
    (h : wordsOf patternLetters text = wordsOf indexLetters text) :
    patternTerms text = indexTerms text ↔ ∀ w ∈ wordsOf patternLetters text, ¬ FinalSigma [] w := by
  rw [patternTerms_eq_map, indexTerms_eq_map, ← h, List.map_inj_left]
  apply forall₂_congr
  intro w hw
  rw [String.ofList_inj, lowerChars_eq_lowerEach_iff fun c hc => (of_mem_words hw hc).2]

/-! ## Patterns

The words of a pattern have to be words of a name, but for the last one, which may begin one. A
pattern without words finds nothing. -/

/-- A name has the terms that a pattern asks for: each of them is a term of the name, but the last,
which need only begin one. -/
def Fits (pattern name : List String) : Prop :=
  ∃ earlier last, pattern = earlier ++ [last] ∧ (∀ w ∈ earlier, w ∈ name) ∧
    ∃ t ∈ name, last.toList <+: t.toList

/-- The last term of a pattern begins a term of the name, and those before it are terms of it. -/
theorem fits_iff {pattern name : List String} : Fits pattern name ↔
    ∃ last ∈ pattern.getLast?, (∀ w ∈ pattern.dropLast, w ∈ name) ∧
      ∃ t ∈ name, last.toList <+: t.toList := by
  constructor
  · rintro ⟨earlier, last, rfl, hearlier, hlast⟩
    rw [List.getLast?_concat, List.dropLast_concat]
    exact ⟨last, rfl, hearlier, hlast⟩
  · rintro ⟨last, hmem, hearlier, hlast⟩
    exact ⟨_, last, (List.dropLast_append_getLast? last hmem).symm, hearlier, hlast⟩

instance (pattern name : List String) : Decidable (Fits pattern name) :=
  decidable_of_iff' _ fits_iff

/-- A name has the terms of a pattern that comes to the same terms, if there are any. -/
theorem fits_self {terms : List String} (h : terms ≠ []) : Fits terms terms := by
  obtain ⟨earlier, last, rfl⟩ := (List.eq_nil_or_concat' terms).resolve_left h
  refine ⟨earlier, last, rfl, fun w hw => List.mem_append_left _ hw, last, ?_, List.prefix_rfl⟩
  exact List.mem_append_right _ List.mem_cons_self

theorem not_fits_nil (name : List String) : ¬ Fits [] name := by
  rintro ⟨earlier, last, h, -⟩
  exact absurd h (by simp)

/-- A pattern without terms fits no name. -/
theorem filter_fits_eq_nil {pattern : String} (h : patternTerms pattern = []) (es : List Element) :
    (es.filter fun e => Fits (patternTerms pattern) (indexTerms e.name)) = [] := by
  rw [List.filter_eq_nil_iff, h]
  exact fun e _ hfits => not_fits_nil _ (of_decide_eq_true hfits)

/-- A clause of words finds the elements whose names the words fit. -/
theorem finds_words {exact : List String} {last : String} {e : Element} (h : ReadLiterally last) :
    finds [.words exact last] (projection e) = true ↔
      Fits (exact ++ [last]) (indexTerms e.name) := by
  have hholds : finds [.words exact last] (projection e) = true ↔
      (∀ w ∈ exact, w ∈ indexTerms e.name) ∧
        ∃ t ∈ indexTerms e.name, describes (prefixExpression last) t = true := by
    simp [finds, Clause.holds, terms_name]
  -- the last word of a pattern is an expression; on the terms of a name it describes those that
  -- begin with the word
  have hlast : (∃ t ∈ indexTerms e.name, describes (prefixExpression last) t = true) ↔
      ∃ t ∈ indexTerms e.name, last.toList <+: t.toList :=
    exists_congr fun t => and_congr_right fun ht => h.finds e.name t ht
  rw [hholds, hlast]
  constructor
  · rintro ⟨hexact, hlast⟩
    exact ⟨exact, last, rfl, hexact, hlast⟩
  -- both splits of the words put the last one at the end, so they are one split
  · rintro ⟨earlier, last', h, hearlier, hlast⟩
    obtain ⟨rfl, hsame⟩ := List.append_inj' h rfl
    obtain rfl := List.singleton_injective hsame
    exact ⟨hearlier, hlast⟩

/-- The clause of a pattern finds the elements whose names it fits, and a pattern without a clause
fits none. -/
theorem ofPattern?_cases (pattern : String) :
    (Clause.ofPattern? pattern = none ∧ patternTerms pattern = []) ∨
      ∃ clause, Clause.ofPattern? pattern = some clause ∧ ∀ e,
        finds [clause] (projection e) = true ↔ Fits (patternTerms pattern) (indexTerms e.name) := by
  unfold Clause.ofPattern?
  -- the pattern is taken apart from its end, since the last word is the one that may go on
  rcases hterms : (patternTerms pattern).reverse with _ | ⟨last, earlier⟩
  · exact .inl ⟨rfl, List.reverse_eq_nil_iff.mp hterms⟩
  · refine .inr ⟨_, rfl, fun e => ?_⟩
    have hpattern : patternTerms pattern = earlier.reverse ++ [last] := by
      rw [← List.reverse_reverse (patternTerms pattern), hterms, List.reverse_cons]
    have hlast : last ∈ patternTerms pattern := by
      rw [hpattern]
      exact List.mem_append_right _ List.mem_cons_self
    rw [hpattern]
    exact finds_words (readLiterally_of_patternTerm hlast)

/-! ## Searches by name

What a search by a name finds are the elements that the pattern fits. An element is found by its own
name just if that is read alike both ways. -/

section Served

variable {d : Desk} {es : List Element}

open Desk

/-- **A search by name finds the elements whose names the pattern fits**, each once, and of them as
many as it has room for. -/
theorem exists_fitting (h : d.Served) (hlive : d.seen.live = es.map projection) (pattern : String) :
    ∃ found : List Element,
      found.Perm (es.filter fun e => Fits (patternTerms pattern) (indexTerms e.name)) ∧
      ∀ n : Int, n ≤ maxWord → ((read (.byName (.text pattern) (.int n))).outcome d).1 =
        .ok ((found.take n.toNat).map Summary.ofElement) := by
  -- a pattern without words asks nothing and fits nothing; any other asks one clause
  rcases ofPattern?_cases pattern with ⟨hnone, hterms⟩ | ⟨clause, hclause, hfinds⟩
  · refine ⟨[], by rw [filter_fits_eq_nil hterms], fun n _ => ?_⟩
    rw [List.take_nil]
    refine outcome_read_wordless h ?_ rfl
    rw [Read.clauses, Clause.ofPatternValue, hnone]
    rfl
  · obtain ⟨found, hperm, hhits⟩ := Collection.exists_hits hlive [clause]
    have hmatching : Collection.matching [clause] es =
        es.filter fun e => Fits (patternTerms pattern) (indexTerms e.name) := by
      refine List.filter_congr fun e _ => ?_
      rw [Bool.eq_iff_iff, hfinds, decide_eq_true_iff]
    refine ⟨found, hmatching ▸ hperm, fun n hn => ?_⟩
    refine outcome_read_hits h ?_ rfl hn hhits
    rw [Read.clauses, Clause.ofPatternValue, hclause]
    rfl

/-- What a search by name finds, told one by one. -/
theorem exists_byName (h : d.Served) (hlive : d.seen.live = es.map projection) (pattern : String) :
    ∃ found : List Element, found.length ≤ es.length ∧
      (∀ e, e ∈ found ↔ e ∈ es ∧ Fits (patternTerms pattern) (indexTerms e.name)) ∧
      ∀ n : Int, n ≤ maxWord → ((read (.byName (.text pattern) (.int n))).outcome d).1 =
        .ok ((found.take n.toNat).map Summary.ofElement) := by
  obtain ⟨found, hperm, hread⟩ := exists_fitting h hlive pattern
  refine ⟨found, ?_, fun e => ?_, hread⟩
  · rw [hperm.length_eq]
    exact List.length_filter_le _ _
  · rw [hperm.mem_iff, List.mem_filter, decide_eq_true_iff]

end Served

/-- A text means the same in a pattern and in a name: it has the same words, and no capital sigma
ends one of them. -/
structure ReadAlike (text : String) : Prop where
  words : wordsOf patternLetters text = wordsOf indexLetters text
  sigma : ∀ w ∈ wordsOf patternLetters text, ¬ FinalSigma [] w

theorem ReadAlike.terms {text : String} (h : ReadAlike text) :
    patternTerms text = indexTerms text :=
  (patternTerms_eq_indexTerms_iff h.words).mpr h.sigma

/-- ASCII is read alike. -/
theorem readAlike_of_plain {text : String} (h : ∀ c ∈ text.toList, c.toNat < 128) :
    ReadAlike text where
  words := words_congr fun c hc => patternLetters_eq_indexLetters (h c hc)
  sigma w hw := by
    apply not_finalSigma_of_not_mem
    intro hsigma
    have hplain : 'Σ'.toNat < 128 := h _ (of_mem_words hw hsigma).1
    exact absurd hplain (by decide)

/-- **What the own name of an element finds**, in every open handle that is served, whatever was done
to it and to others before. With room for all documents, the name finds the element just if its
pattern fits its terms; and where the name means the same in a pattern and in an index, it finds the
element unless it has no terms at all. -/
theorem found_by_own_name {ι : Type} [DecidableEq ι] (p : Process ι) (turns : List (Turn ι)) (i : ι)
    (now : Binary64) (s : Session) (hclosed : ∀ i, (p.handle i).session = none)
    (hfiles : TracedFiles p.shelf.files) (hturns : ∀ t ∈ turns, t.deed.Traced)
    (hs : ((p.performAll turns).handle i).session = some s) (hserves : s.engine.source.Serves) :
    let d := (p.performAll turns).desk i now
    (∀ x ∈ d.seen.live, ∃ e, x = projection e) ∧
    ∀ e, projection e ∈ d.seen.live → ∀ n : Int, d.seen.live.length ≤ n → n ≤ maxWord → ∃ found,
      ((Desk.read (.byName (.text e.name) (.int n))).outcome d).1 = .ok found ∧
      (Summary.ofElement e ∈ found ↔ Fits (patternTerms e.name) (indexTerms e.name)) ∧
      (ReadAlike e.name → patternTerms e.name = indexTerms e.name ∧
        (indexTerms e.name ≠ [] → Summary.ofElement e ∈ found)) := by
  intro d
  obtain ⟨hserved, es, hlive⟩ := Process.served_performAll hfiles hclosed hturns hs hserves now
  refine ⟨fun x hx => ?_, fun e he n hroom hn => ?_⟩
  · rw [hlive] at hx
    obtain ⟨e, -, rfl⟩ := List.mem_map.mp hx
    exact ⟨e, rfl⟩
  obtain ⟨found, hlength, hmem, hread⟩ := exists_byName hserved hlive e.name
  have hanswer := hread n hn
  -- the limit leaves room for all that is seen, so nothing is cut off
  rw [List.take_of_length_le] at hanswer
  · rw [hlive] at he
    obtain ⟨e', he', hsame⟩ := List.mem_map.mp he
    have hiff := mem_summaries_iff
      (P := fun x => Fits (patternTerms e.name) (indexTerms x.name)) hmem he'
    rw [summary_congr hsame] at hiff
    refine ⟨_, hanswer, hiff, fun halike => ⟨halike.terms, fun hterms => hiff.mpr ?_⟩⟩
    rw [halike.terms]
    exact fits_self hterms
  · rw [hlive, List.length_map] at hroom
    omega

/-- An element with a plain name is found after an update. -/
theorem found_by_own_name_plain :
    let e : Element := { id := "a", name := "Open index", payload := .asset }
    let q := Process.single.performAll
      [⟨(), .zero, .openIndex fun _ => none⟩, ⟨(), .zero, .write (.update (some e))⟩]
    ∃ found, ((Desk.read (.byName (.text "Open index") (.int 1))).outcome (q.desk () .zero)).1 =
      .ok found ∧ Summary.ofElement e ∈ found := by
  intro e q
  obtain ⟨s, hs, hserves, hlive⟩ : ∃ s, (q.handle ()).session = some s ∧
      s.engine.source.Serves ∧ (q.desk () .zero).seen.live = [projection e] :=
    ⟨_, rfl, ⟨rfl, rfl⟩, rfl⟩
  have hturns : ∀ t ∈ ([⟨(), .zero, .openIndex fun _ => none⟩,
      ⟨(), .zero, .write (.update (some e))⟩] : List (Turn Unit)), t.deed.Traced := by
    intro t ht
    simp only [List.mem_cons, List.not_mem_nil, or_false] at ht
    rcases ht with rfl | rfl
    · trivial
    · trivial
  obtain ⟨-, hfinds⟩ := found_by_own_name Process.single _ () .zero s (fun _ => rfl)
    tracedFiles_empty hturns hs hserves
  obtain ⟨found, hfound, -, halike⟩ := hfinds e
    (by rw [hlive]; exact List.mem_cons_self) 1 (by rw [hlive]; decide) (by decide)
  -- among the first 128 characters both ways of lowering agree
  have hletters : e.name.toList.all (fun c => decide (c.toNat < 128)) = true := by decide
  have hplain : ∀ c ∈ e.name.toList, c.toNat < 128 :=
    fun c hc => of_decide_eq_true (List.all_eq_true.mp hletters c hc)
  obtain ⟨-, hmem⟩ := halike (readAlike_of_plain hplain)
  exact ⟨found, hfound, hmem (by decide +kernel)⟩

/-- **Names that miss their elements.** A capital sigma at the end of a word becomes the final form in
the pattern only, and a vowel sign is a letter in the index only. -/
theorem missed_by_own_name :
    let asset : String → Element := fun name => { id := "a", name := name, payload := .asset }
    let q := fun name => Process.single.performAll
      [⟨(), .zero, .openIndex fun _ => none⟩, ⟨(), .zero, .write (.update (some (asset name)))⟩]
    let found := fun name =>
      ((q name).perform ⟨(), .zero, .read (.byName (.text name) (.int 1))⟩).1
    ((q "ΟΔΟΣ").desk () .zero).seen.live = [projection (asset "ΟΔΟΣ")] ∧
      indexTerms "ΟΔΟΣ" = ["οδοσ"] ∧ patternTerms "ΟΔΟΣ" = ["οδος"] ∧
      found "ΟΔΟΣ" = .ok (.found []) ∧
    ((q "हिन्दी").desk () .zero).seen.live = [projection (asset "हिन्दी")] ∧
      indexTerms "हिन्दी" = ["हिन", "दी"] ∧ patternTerms "हिन्दी" = ["ह", "न", "द"] ∧
      found "हिन्दी" = .ok (.found []) := by
  decide +kernel

end CodeCatalog.Search
