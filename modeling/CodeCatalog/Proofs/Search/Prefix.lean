/-
Searches for the beginning of a name.

A search finds the documents whose names fit the terms of its pattern, in every handle that is
served (`byName_eq_fitting`). Of the last term it is enough that it begins one of the name: the
expression that asks for it is read literally. The limit of a search has to be a machine word.
-/
import CodeCatalog.Proofs.Search.Naming

set_option autoImplicit false

namespace CodeCatalog.Search

/-- **What a search for a name finds**, in every open handle that is served, whatever was done to it
and to others before. There is one list of hits, each of the documents once whose names have all
terms of the pattern but the last, and one that begins with the last. A search gives as many of them
as its limit says, so long as that is a machine word, and all of them with room for all documents.
The expression by which it asks for the last term is read literally. -/
theorem byName_eq_fitting {ι : Type} [DecidableEq ι] (p : Process ι) (turns : List (Turn ι)) (i : ι)
    (now : Binary64) (s : Session) (pattern : String)
    (hclosed : ∀ i, (p.handle i).session = none) (hfiles : TracedFiles p.shelf.files)
    (hturns : ∀ t ∈ turns, t.deed.Traced)
    (hs : ((p.performAll turns).handle i).session = some s) (hserves : s.engine.source.Serves) :
    let d := (p.performAll turns).desk i now
    let answer := fun n : Int => ((Desk.read (.byName (.text pattern) (.int n))).outcome d).1
    ∃ (es : List Element) (found : List Summary),
      d.seen.live = es.map projection ∧
      found.Perm ((es.filter fun e =>
        Fits (patternTerms pattern) (indexTerms e.name)).map Summary.ofElement) ∧
      (∀ n : Int, n ≤ maxWord → answer n = .ok (found.take n.toNat)) ∧
      (∀ n : Int, es.length ≤ n → n ≤ maxWord → answer n = .ok found) ∧
      (patternTerms pattern = [] → found = []) ∧
      ∀ last ∈ (patternTerms pattern).getLast?, ReadLiterally last := by
  intro d answer
  obtain ⟨hserved, es, hlive⟩ := Process.served_performAll hfiles hclosed hturns hs hserves now
  -- the order is that of the engine, which is why the result is a list that the filter gives up to
  -- order
  obtain ⟨found, hperm, hread⟩ := exists_fitting hserved hlive pattern
  have hanswer : ∀ n : Int, n ≤ maxWord →
      answer n = .ok ((found.map Summary.ofElement).take n.toNat) := by
    intro n hn
    rw [← List.map_take]
    exact hread n hn
  have hlength : found.length ≤ es.length := by
    rw [hperm.length_eq]
    exact List.length_filter_le _ _
  refine ⟨es, found.map Summary.ofElement, hlive, hperm.map _, hanswer, fun n hroom hn => ?_,
    fun hterms => ?_, fun last hlast =>
      readLiterally_of_patternTerm (List.mem_of_mem_getLast? hlast)⟩
  · rw [hanswer n hn, List.take_of_length_le]
    rw [List.length_map]
    omega
  · rw [filter_fits_eq_nil hterms, List.perm_nil] at hperm
    rw [hperm]
    rfl

/-- Of two elements that were built, a search gives the one whose name has the first word, and a
word that begins with the second. -/
theorem byName_eq_fitting_pair :
    let e : Element := { id := "a", name := "Open indexes", payload := .member .method {} }
    let f : Element := { id := "b", name := "opened.index", payload := .asset }
    let r := Process.single.performAll [⟨(), .zero, .openIndex fun _ => none⟩,
      ⟨(), .zero, .write (.build [.ok (some e), .ok (some f)])⟩]
    ((Desk.read (.byName (.text "OPEN.Ind*") (.int 2))).outcome (r.desk () .zero)).1 =
        .ok [Summary.ofElement e] ∧
      ReadLiterally "ind" := by
  intro e f r
  have hlive : (r.desk () .zero).seen.live = [projection e, projection f] := by decide +kernel
  obtain ⟨s, hs, hserves⟩ : ∃ s, (r.handle ()).session = some s ∧ s.engine.source.Serves :=
    ⟨_, rfl, ⟨rfl, rfl⟩⟩
  have hturns : ∀ t ∈ ([⟨(), .zero, .openIndex fun _ => none⟩,
      ⟨(), .zero, .write (.build [.ok (some e), .ok (some f)])⟩] : List (Turn Unit)),
      t.deed.Traced :=
    List.forall_mem_cons.mpr ⟨trivial, List.forall_mem_singleton.mpr trivial⟩
  obtain ⟨es, found, hes, hperm, -, hanswer, -, hliteral⟩ :=
    byName_eq_fitting Process.single _ () .zero s "OPEN.Ind*" (fun _ => rfl) tracedFiles_empty
      hturns hs hserves
  -- the documents are those of two elements with these names and summaries
  have hdocuments : es.map projection = [projection e, projection f] := hes.symm.trans hlive
  obtain ⟨x, _, rfl, hx, hrest⟩ := List.map_eq_cons_iff.mp hdocuments
  obtain ⟨y, _, rfl, hy, hnone⟩ := List.map_eq_cons_iff.mp hrest
  obtain rfl := List.map_eq_nil_iff.mp hnone
  have hfits : Fits (patternTerms "OPEN.Ind*") (indexTerms x.name) := by
    rw [← terms_name, hx, terms_name]
    decide +kernel
  have hmisses : ¬ Fits (patternTerms "OPEN.Ind*") (indexTerms y.name) := by
    rw [← terms_name, hy, terms_name]
    decide +kernel
  have hfilter : [x, y].filter (fun e => Fits (patternTerms "OPEN.Ind*") (indexTerms e.name)) =
      [x] := by
    simp [hfits, hmisses]
  rw [hfilter, List.map_singleton, List.perm_singleton, summary_congr hx] at hperm
  refine ⟨?_, hliteral "ind" (by decide +kernel)⟩
  rw [← hperm]
  exact hanswer 2 le_rfl (by decide)

/-- A limit that is no machine word makes a search fail, however few documents there are. -/
theorem byName_limit_too_wide :
    let e : Element := { id := "a", name := "A", payload := .asset }
    let r := Process.single.performAll
      [⟨(), .zero, .openIndex fun _ => none⟩, ⟨(), .zero, .write (.update (some e))⟩]
    (r.desk () .zero).seen.live = [projection e] ∧
      Fits (patternTerms "A") (indexTerms e.name) ∧
      ((Desk.read (.byName (.text "A") (.int 18446744073709551616))).outcome (r.desk () .zero)).1 =
        .error (.fault .wordTooWide) := by
  decide +kernel

end CodeCatalog.Search
