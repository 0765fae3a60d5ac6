/-
What a look-up finds in a collection that was made of elements.

A look-up filters the documents, ranks what is left, cuts it, and reads the summaries back. Ranking
changes the order and cutting the number, so in such a collection the hits are elements in some order
(`exists_hits`), of which a look-up gives as many as it has room for. Where no words are asked for
nothing is ranked, and the hits come in the order in which they were added (`lookUp_in_order`).
-/
import CodeCatalog.Proofs.Search.Document
import CodeCatalog.Search.Index
import Mathlib.Data.List.Perm.Basic

set_option autoImplicit false

namespace CodeCatalog.Search

/-! ## Documents that are made one by one

Projecting and telling are done for each of several elements, and the first failure is that of all.
Here it is known that there is none. -/

section Lists

variable {α β ε : Type} {f : α → Except ε β} {x : α} {xs : List α} {ys : List β}

/-- Several things succeed together just if the first does and the others do. -/
theorem mapM_cons_ok :
    (x :: xs).mapM f = .ok ys ↔ ∃ y zs, f x = .ok y ∧ xs.mapM f = .ok zs ∧ ys = y :: zs := by
  rw [List.mapM_cons]
  rcases f x with e | y
  · exact ⟨nofun, fun ⟨_, _, h, _⟩ => absurd h nofun⟩
  rcases xs.mapM f with e | zs
  · exact ⟨nofun, fun ⟨_, _, _, h, _⟩ => absurd h nofun⟩
  constructor
  · intro h
    exact ⟨y, zs, rfl, rfl, (Except.ok.inj h).symm⟩
  · rintro ⟨_, _, ⟨⟩, ⟨⟩, rfl⟩
    rfl

/-- Where each thing succeeds, all do together. -/
theorem mapM_of_forall {g : α → β} (h : ∀ x ∈ xs, f x = .ok (g x)) :
    xs.mapM f = .ok (xs.map g) := by
  induction xs with
  | nil => rfl
  | cons x xs ih =>
    rw [List.map_cons, mapM_cons_ok]
    exact ⟨_, _, h x List.mem_cons_self, ih fun y hy => h y (List.mem_cons_of_mem _ hy), rfl⟩

end Lists

/-- Elements that all have a document have their projections. -/
theorem mapM_projection {es : List Element} {xs : List Document}
    (h : es.mapM Document.ofElement = .ok xs) : xs = es.map projection := by
  induction es generalizing xs with
  | nil => exact (Except.ok.inj h).symm
  | cons e es ih =>
    obtain ⟨d, ds, hd, hds, rfl⟩ := mapM_cons_ok.mp h
    rw [List.map_cons, ofElement_ok hd, ih hds]

/-- What was projected together can each be indexed. -/
theorem indexable_of_mapM {es : List Element} {xs : List Document}
    (h : es.mapM Document.ofElement = .ok xs) : ∀ e ∈ es, Indexable e := by
  induction es generalizing xs with
  | nil => exact fun _ he => absurd he List.not_mem_nil
  | cons e es ih =>
    obtain ⟨d, ds, hd, hds, -⟩ := mapM_cons_ok.mp h
    exact List.forall_mem_cons.mpr ⟨indexable_of_ok hd, ih hds⟩

/-- The documents of elements are told as their summaries. -/
theorem mapM_summary (es : List Element) :
    (es.map projection).mapM Document.summary = .ok (es.map Summary.ofElement) := by
  rw [List.mapM_map]
  exact mapM_of_forall fun e _ => summary_projection e

/-- What is a list of images in another order, is the images of the list in another order. -/
theorem exists_perm_of_map {α β : Type} {f : α → β} {xs : List α} {ys : List β}
    (h : ys.Perm (xs.map f)) : ∃ zs : List α, zs.Perm xs ∧ ys = zs.map f := by
  have himages : List.Forall₂ (fun y x => y = f x) (xs.map f) xs := by
    rw [List.forall₂_map_left_iff]
    exact List.forall₂_same.mpr fun _ _ => rfl
  obtain ⟨zs, hzs, hperm⟩ := List.perm_comp_forall₂ h himages
  refine ⟨zs, hperm, ?_⟩
  rw [← List.forall₂_eq_eq_eq, List.forall₂_map_right_iff]
  exact hzs

/-! ## Searches

A search filters the documents, ranks them if there are words to rank by, and takes as many as it
may. Ranking changes the order and nothing else. -/

namespace Collection

variable {c : Collection} {es : List Element} {clauses : List Clause}

/-- All documents that a query finds, best first. -/
def hits (c : Collection) (clauses : List Clause) : List Document :=
  c.ranked (clauses.flatMap Clause.rankingWords) (c.live.filter (finds clauses))

theorem search_eq_take (c : Collection) (clauses : List Clause) (n : Nat) :
    c.search clauses n = (c.hits clauses).take n := rfl

/-- Ranking finds the same documents in another order. -/
theorem ranked_perm (c : Collection) (words : List String) (ds : List Document) :
    (c.ranked words ds).Perm ds := by
  rw [ranked]
  by_cases hwords : words.isEmpty
  · rw [if_pos hwords]
  · rw [if_neg hwords]
    have hsorted := (List.mergeSort_perm (ds.map fun d => ((c.statistics words).score d, d))
      fun a b => a.1 ≥ b.1).map Prod.snd
    rwa [List.map_map, Function.comp_def, List.map_id''] at hsorted
    exact fun _ => rfl

/-- Where nothing is ranked by words the hits come in the order of the index. -/
theorem hits_of_no_words (h : clauses.flatMap Clause.rankingWords = []) (c : Collection) :
    c.hits clauses = c.live.filter (finds clauses) := by
  rw [hits, h]
  exact if_pos rfl

/-- The elements whose documents a query finds. -/
def matching (clauses : List Clause) (es : List Element) : List Element :=
  es.filter fun e => finds clauses (projection e)

/-- The documents that are found are those of the elements that match. -/
theorem filter_projection (clauses : List Clause) (es : List Element) :
    (es.map projection).filter (finds clauses) = (matching clauses es).map projection := by
  rw [List.filter_map]
  rfl

/-- The hits among documents of elements are elements in some order. -/
theorem exists_hits (hlive : c.live = es.map projection) (clauses : List Clause) :
    ∃ found : List Element, found.Perm (matching clauses es) ∧
      c.hits clauses = found.map projection := by
  have hperm := c.ranked_perm (clauses.flatMap Clause.rankingWords)
    (c.live.filter (finds clauses))
  rw [hlive, filter_projection] at hperm
  obtain ⟨found, hfound, hhits⟩ := exists_perm_of_map hperm
  refine ⟨found, hfound, ?_⟩
  rw [hits, hlive, filter_projection, hhits]

/-- Where no words are asked for, the hits come in the order in which they were added. -/
theorem hits_in_order (hlive : c.live = es.map projection)
    (hwords : clauses.flatMap Clause.rankingWords = []) :
    c.hits clauses = (matching clauses es).map projection := by
  rw [hits_of_no_words hwords, hlive, filter_projection]

end Collection

/-- Elements that are picked by their summaries are told by them from those that are not picked. -/
theorem mem_summaries_iff {es found : List Element} {P : Summary → Prop}
    (hfound : ∀ e, e ∈ found ↔ e ∈ es ∧ P (Summary.ofElement e)) {e : Element} (he : e ∈ es) :
    Summary.ofElement e ∈ found.map Summary.ofElement ↔ P (Summary.ofElement e) := by
  constructor
  · intro hmem
    obtain ⟨e', he', hsame⟩ := List.mem_map.mp hmem
    rw [← hsame]
    exact ((hfound e').mp he').2
  · exact fun hP => List.mem_map_of_mem ((hfound e).mpr ⟨he, hP⟩)

/-! ## Look-ups

A look-up in an index of elements tells the summaries of those that match. With room for all of
them, it tells each. -/

namespace Desk

variable {c : Collection} {es found : List Element} {e : Element} {clauses : List Clause}
  {limit : Json.Value} {ss : List Summary} {n : Nat}

open Collection

/-- A look-up gives the summaries of the first hits. -/
theorem lookUp_hits (hlimit : Limit.word limit = .ok n)
    (hhits : c.hits clauses = found.map projection) :
    lookUp clauses limit c = .ok ((found.take n).map Summary.ofElement) := by
  rw [lookUp, hlimit]
  dsimp only
  rw [search_eq_take, hhits, ← List.map_take, summaries, mapM_summary]

/-- **What asks for no words finds in order.** -/
theorem lookUp_in_order (hlive : c.live = es.map projection)
    (hwords : clauses.flatMap Clause.rankingWords = []) (hlimit : Limit.word limit = .ok n) :
    lookUp clauses limit c = .ok (((matching clauses es).take n).map Summary.ofElement) :=
  lookUp_hits hlimit (hits_in_order hlive hwords)

/-- **A hit is the summary of an element.** -/
theorem exists_of_mem_lookUp (hlive : c.live = es.map projection)
    (hss : lookUp clauses limit c = .ok ss) {s : Summary} (hs : s ∈ ss) :
    ∃ e ∈ es, Summary.ofElement e = s := by
  obtain ⟨found, hperm, hhits⟩ := exists_hits hlive clauses
  rcases hlimit : Limit.word limit with f | n
  · rw [lookUp, hlimit] at hss
    exact absurd hss nofun
  rw [lookUp_hits hlimit hhits] at hss
  rw [← Except.ok.inj hss] at hs
  obtain ⟨e, he, rfl⟩ := List.mem_map.mp hs
  have hmatching : e ∈ matching clauses es := hperm.mem_iff.mp (List.mem_of_mem_take he)
  exact ⟨e, List.mem_of_mem_filter hmatching, rfl⟩

/-! ### One value

A field that is indexed as a whole matches the elements with that value. -/

theorem finds_value {f : DocField} {v : String} {d : Document} :
    finds [.value f v] d = true ↔ v ∈ d.terms f := by
  simp [finds, Clause.holds]

/-- A look-up of a kind finds the elements of the kind. -/
theorem matching_kind (k : Kind) (es : List Element) :
    matching [.value .elementType k.name] es = es.filter (·.kind = k) := by
  refine List.filter_congr fun e _ => ?_
  rw [Bool.eq_iff_iff, finds_value, mem_terms_kind, decide_eq_true_eq]

/-- A look-up of a parent finds the elements that name it. -/
theorem matching_parentId {p : String} (hp : p.utf8ByteSize < Document.maxValueBytes)
    (es : List Element) :
    matching [.value .parentId p] es = es.filter (·.parentId = some p) := by
  refine List.filter_congr fun e _ => ?_
  rw [Bool.eq_iff_iff, finds_value, mem_terms_parentId hp, decide_eq_true_eq]

/-- A look-up of a full name finds the elements that have it. -/
theorem matching_fullName {n : String} (hn : n.utf8ByteSize < Document.maxValueBytes)
    (es : List Element) :
    matching [.value .fullName n] es = es.filter (·.fullName = n) := by
  refine List.filter_congr fun e _ => ?_
  rw [Bool.eq_iff_iff, finds_value, mem_terms_fullName hn, decide_eq_true_eq]

/-! ### Limits

A limit that is a whole number fits a machine word or does not. -/

/-- A whole number that fits a machine word is one. -/
theorem word_int {n : Int} (hpos : 0 ≤ n) (hword : n ≤ maxWord) :
    Limit.word (.int n) = .ok n.toNat := by
  show machineWord n = _
  rw [machineWord, if_neg (by omega), if_neg (by omega)]

/-- There is room for results if the limit is above zero. -/
theorem hasRoom_int (n : Int) : Limit.hasRoom (.int n) = .ok (decide (0 < n)) := by
  show Except.ok (decide (0 < n) || _) = _
  rw [Bool.or_eq_left_iff_imp.mpr]
  exact fun h => absurd (of_decide_eq_true h) nofun

/-- A limit that is a word and not zero has room. -/
theorem hasRoom_of_word (h : Limit.word limit = .ok n) (hn : 0 < n) :
    Limit.hasRoom limit = .ok true := by
  have hpos : ∀ i : Int, machineWord i = .ok n → 0 < i := by
    intro i hi
    rw [machineWord] at hi
    split_ifs at hi
    have := Except.ok.inj hi
    omega
  -- only a flag and a whole number are taken for a word
  rcases limit with _ | b | i | x | s | items | fields
  · exact absurd h nofun
  · have hb : decide (0 < Limit.ofFlag b) = true := decide_eq_true (hpos _ h)
    simp only [Limit.hasRoom, Limit.exceeds?, hb, Bool.true_or]
  · rw [hasRoom_int, decide_eq_true (hpos _ h)]
  · exact absurd h nofun
  · exact absurd h nofun
  · exact absurd h nofun
  · exact absurd h nofun

end Desk

end CodeCatalog.Search
