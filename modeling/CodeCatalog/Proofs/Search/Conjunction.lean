/-
An advanced search finds what all of its conditions find.

An advanced search is translated to a list of clauses, and each of the other searches to a clause of
its own, by other functions. What is found by the list is what every clause of it finds, so once each
clause is told apart by the summaries that it lets through, the advanced search is a filter on the
visible summaries by the results of the other searches (`advanced_eq_intersection`). Conditions that
are left out and conditions on the empty text make no clause; a pattern without words makes one that
finds nothing, and so does the lack of any clause.
-/
import CodeCatalog.Proofs.Search.Naming

set_option autoImplicit false

namespace CodeCatalog.Search

open Desk

/-! ## Conditions

An advanced search is given a pattern and up to four values, or some of them. What is left out is no
condition. -/

/-- The conditions of an advanced search, each of which may be left out. -/
structure Sought where
  name : Option String := none
  kind : Option Kind := none
  access : Option String := none
  parent : Option String := none
  returns : Option String := none

namespace Sought

variable {q : Sought} {e : Element}

/-- A text that may be left out, as a caller gives it. -/
def textValue (o : Option String) : Json.Value :=
  o.elim .null .text

def query (q : Sought) : Query where
  namePattern := textValue q.name
  kind := textValue (q.kind.map Kind.name)
  accessModifier := textValue q.access
  parentId := textValue q.parent
  returnType := textValue q.returns

/-- A condition on a text that is there and not empty. -/
def given (o : Option String) : Option String :=
  o.filter (· ≠ "")

/-- The texts that are compared as a whole are short enough to be terms. -/
def Short (q : Sought) : Prop :=
  ∀ o ∈ [q.access, q.parent, q.returns], ∀ s ∈ o, s.utf8ByteSize < Document.maxValueBytes

/-- The conditions that are not left out, each a text that a field is asked for. -/
def conditions (q : Sought) : List (DocField × String) :=
  (given q.name).toList.map (DocField.name, ·) ++
    q.kind.toList.map (DocField.elementType, ·.name) ++
    (given q.access).toList.map (DocField.accessModifier, ·) ++
    (given q.parent).toList.map (DocField.parentId, ·) ++
    (given q.returns).toList.map (DocField.returnType, ·)

/-- What holds of all conditions holds of each. -/
theorem forall_conditions {P : DocField × String → Prop} : (∀ x ∈ q.conditions, P x) ↔
    (∀ s ∈ given q.name, P (.name, s)) ∧ (∀ k ∈ q.kind, P (.elementType, k.name)) ∧
      (∀ s ∈ given q.access, P (.accessModifier, s)) ∧ (∀ s ∈ given q.parent, P (.parentId, s)) ∧
        ∀ s ∈ given q.returns, P (.returnType, s) := by
  simp only [conditions, List.forall_mem_append, List.forall_mem_map, Option.mem_toList,
    Option.mem_def, and_assoc]

/-- No value is given just if what is passed on stands for nothing. -/
theorem given_eq_none_iff {o : Option String} :
    given o = none ↔ (textValue o).isNothing = true := by
  rcases o with _ | s
  · exact iff_of_true rfl rfl
  · simp [given, textValue, Json.Value.isNothing]

/-- A query is empty if all of its conditions are left out. -/
theorem isEmpty_query : q.query.isEmpty = true ↔ q.conditions = [] := by
  have hkind : textValue (q.kind.map Kind.name) = .null ↔ q.kind = none := by
    rcases q.kind with _ | k
    · exact iff_of_true rfl rfl
    · exact iff_of_false nofun nofun
  simp only [Query.isEmpty, query, conditions, Bool.and_eq_true, decide_eq_true_eq, hkind,
    ← given_eq_none_iff, List.append_eq_nil_iff, List.map_eq_nil_iff, Option.toList_eq_nil_iff]

/-! ## Filters and clauses

The conditions that are given become filters, and the filters clauses, in one order throughout. -/

/-- The clause of a condition. -/
def clauseOf : DocField × String → Clause
  | (.name, pattern) => (Clause.ofPattern? pattern).getD .never
  | (field, value) => .value field value

/-- A filter for a text is a clause for it. -/
theorem ofFilter_text (x : DocField × String) :
    Clause.ofFilter ⟨x.1, .text x.2⟩ = .ok (clauseOf x) := by
  rcases x with ⟨f, s⟩
  cases f <;> rfl

/-- A value that is given is a filter, and none is none. -/
theorem valueFilter_textValue (f : DocField) (o : Option String) :
    Query.valueFilter f (textValue o) = (given o).toList.map fun s => ⟨f, .text s⟩ := by
  rcases o with _ | s
  · rfl
  · by_cases hs : s = ""
    · simp [Query.valueFilter, textValue, given, Json.Value.isNothing, hs]
    · simp [Query.valueFilter, textValue, given, Json.Value.isNothing, Option.filter, hs]

theorem kindOf_name (k : Kind) : kindOf (.text k.name) = .ok k := by
  rw [kindOf, Element.ofName?_name]

/-- A kind that is given is a filter for its name. -/
theorem kindFilter_textValue (o : Option Kind) :
    Query.kindFilter (textValue (o.map Kind.name)) =
      .ok (o.toList.map fun k => ⟨.elementType, .text k.name⟩) := by
  rcases o with _ | k
  · rfl
  · show Except.map _ (kindOf (.text k.name)) = _
    rw [kindOf_name]
    rfl

/-- The filters of a query are its conditions. -/
theorem filters_query (q : Sought) :
    q.query.filters = .ok (q.conditions.map fun x => ⟨x.1, .text x.2⟩) := by
  unfold Query.filters query
  rw [kindFilter_textValue]
  simp only [valueFilter_textValue, conditions, List.map_append, List.map_map]
  rfl

/-- The clauses of an advanced search are those of its conditions. -/
theorem clauses_advanced (q : Sought) (limit : Json.Value) :
    (Read.advanced q.query limit).clauses = .ok (some (q.conditions.map clauseOf)) := by
  have hclauses : (q.conditions.map fun x => (⟨x.1, .text x.2⟩ : Filter)).mapM Clause.ofFilter =
      .ok (q.conditions.map clauseOf) := by
    rw [List.mapM_map]
    exact mapM_of_forall fun x _ => ofFilter_text x
  unfold Read.clauses
  dsimp only
  rw [filters_query]
  simp only [bind, Except.bind, pure, Except.pure] at hclauses ⊢
  rw [hclauses]

/-! ## What a condition lets through

Each clause finds the elements that meet its condition, so all clauses together find those that meet
all. -/

/-- A summary meets a condition. No condition but these five is ever made. -/
def Meets (x : Summary) : DocField × String → Prop
  | (.name, pattern) => Fits (patternTerms pattern) (indexTerms x.name)
  | (.elementType, kind) => x.kind.name = kind
  | (.accessModifier, access) => x.accessModifier = some access
  | (.parentId, parent) => x.parentId = some parent
  | (.returnType, type) => x.returnType = some type
  | _ => False

theorem finds_one {c : Clause} {d : Document} : finds [c] d = c.holds d := by
  simp [finds]

/-- A pattern lets an element through by its name. -/
theorem holds_name (pattern : String) (e : Element) :
    (clauseOf (.name, pattern)).holds (projection e) = true ↔
      Meets (Summary.ofElement e) (.name, pattern) := by
  show ((Clause.ofPattern? pattern).getD .never).holds (projection e) = true ↔
    Fits (patternTerms pattern) (indexTerms e.name)
  rcases ofPattern?_cases pattern with ⟨hnone, hterms⟩ | ⟨clause, hclause, hfinds⟩
  · rw [hnone, hterms]
    exact iff_of_false Bool.false_ne_true (not_fits_nil _)
  · rw [hclause, Option.getD_some, ← hfinds, finds_one]

/-- Whether a clause of a condition finds a document is told by the summary. -/
theorem holds_conditions (hshort : q.Short) (e : Element) :
    (∀ x ∈ q.conditions, (clauseOf x).holds (projection e) = true) ↔
      ∀ x ∈ q.conditions, Meets (Summary.ofElement e) x := by
  have hvalue : ∀ (f : DocField) (s : String),
      (Clause.value f s).holds (projection e) = true ↔ s ∈ (projection e).terms f := by
    intro f s
    exact List.contains_iff_mem
  have hbelow : ∀ o ∈ [q.access, q.parent, q.returns], ∀ s ∈ given o,
      s.utf8ByteSize < Document.maxValueBytes :=
    fun o ho s hs => hshort o ho s (Option.mem_filter_iff.mp hs).1
  rw [forall_conditions, forall_conditions]
  -- one condition after the other; a value that is too long to be stored is not asked for
  refine and_congr ?_ (and_congr ?_ (and_congr ?_ (and_congr ?_ ?_)))
  · exact forall₂_congr fun s _ => holds_name s e
  · refine forall₂_congr fun k _ => ?_
    show (Clause.value .elementType k.name).holds (projection e) = true ↔ e.kind.name = k.name
    rw [hvalue, mem_terms_kind, kind_name_injective.eq_iff]
  · refine forall₂_congr fun s hs => ?_
    exact (hvalue _ _).trans (mem_terms_accessModifier (hbelow _ (by simp) s hs))
  · refine forall₂_congr fun s hs => ?_
    exact (hvalue _ _).trans (mem_terms_parentId (hbelow _ (by simp) s hs))
  · refine forall₂_congr fun s hs => ?_
    exact (hvalue _ _).trans (mem_terms_returnType (hbelow _ (by simp) s hs))

/-- What the conditions find, told by the summaries: nothing without a condition. -/
theorem finds_conditions (hshort : q.Short) (e : Element) :
    finds (q.conditions.map clauseOf) (projection e) = true ↔
      q.conditions ≠ [] ∧ ∀ x ∈ q.conditions, Meets (Summary.ofElement e) x := by
  rw [← holds_conditions hshort, finds, Bool.and_eq_true, List.all_eq_true, List.forall_mem_map,
    Bool.not_eq_true', List.isEmpty_eq_false_iff, ne_eq, List.map_eq_nil_iff]

end Sought

/-! ## Advanced searches

A search by one condition alone tells the elements that meet it. With limits that are large enough,
the advanced search is the intersection of these. -/

/-- What the single searches give that go with the name, the kind and the parent of an advanced one,
where it has them. -/
structure Singles where
  byName : List Summary
  byKind : List Summary
  byParent : List Summary

namespace Sought

variable {q : Sought} {single : Singles} {x : Summary} {es : List Element}

/-- There is a condition, and the summary is among the single results that are asked for and stores
the access modifier and the return type that are asked for. -/
def wants (q : Sought) (single : Singles) (x : Summary) : Bool :=
  !q.query.isEmpty && (given q.name).all (fun _ => single.byName.contains x) &&
    q.kind.all (fun _ => single.byKind.contains x) &&
    (given q.parent).all (fun _ => single.byParent.contains x) &&
    (given q.access).all (fun access => x.accessModifier = some access) &&
    (given q.returns).all (fun type => x.returnType = some type)

/-- Single results that tell which of some elements meet the conditions that they go with. -/
structure Told (q : Sought) (single : Singles) (es : List Element) : Prop where
  name : ∀ s ∈ given q.name, ∀ e ∈ es,
    (Summary.ofElement e ∈ single.byName ↔ Meets (Summary.ofElement e) (.name, s))
  kind : ∀ k ∈ q.kind, ∀ e ∈ es,
    (Summary.ofElement e ∈ single.byKind ↔ Meets (Summary.ofElement e) (.elementType, k.name))
  parent : ∀ s ∈ given q.parent, ∀ e ∈ es,
    (Summary.ofElement e ∈ single.byParent ↔ Meets (Summary.ofElement e) (.parentId, s))

/-- What is wanted of elements meets all conditions. -/
theorem Told.wants_iff (h : q.Told single es) {e : Element} (he : e ∈ es) :
    q.wants single (Summary.ofElement e) = true ↔
      q.conditions ≠ [] ∧ ∀ c ∈ q.conditions, Meets (Summary.ofElement e) c := by
  have hempty : q.query.isEmpty = false ↔ q.conditions ≠ [] := by
    rw [← Bool.not_eq_true, isEmpty_query]
  rw [forall_conditions]
  simp only [wants, Bool.and_eq_true, Bool.not_eq_true', Option.all_eq_true, List.contains_iff_mem,
    decide_eq_true_eq, and_assoc, hempty]
  refine and_congr Iff.rfl ?_
  -- the two sides are the same five conditions, told once by the finding of each and once by the
  -- summary, in another order
  constructor
  · rintro ⟨h₁, h₂, h₃, h₄, h₅⟩
    exact ⟨fun s hs => (h.name s hs e he).mp (h₁ s hs), fun k hk => (h.kind k hk e he).mp (h₂ k hk),
      h₄, fun s hs => (h.parent s hs e he).mp (h₃ s hs), h₅⟩
  · rintro ⟨h₁, h₂, h₃, h₄, h₅⟩
    exact ⟨fun s hs => (h.name s hs e he).mpr (h₁ s hs),
      fun k hk => (h.kind k hk e he).mpr (h₂ k hk),
      fun s hs => (h.parent s hs e he).mpr (h₄ s hs), h₃, h₅⟩

/-- The elements that a query finds are those whose summaries are wanted. -/
theorem Told.summaries_matching (h : q.Told single es) (hshort : q.Short) :
    (Collection.matching (q.conditions.map clauseOf) es).map Summary.ofElement =
      (es.map Summary.ofElement).filter (q.wants single) := by
  rw [List.filter_map, Collection.matching]
  refine congrArg _ (List.filter_congr fun e he => ?_)
  rw [Bool.eq_iff_iff, finds_conditions hshort]
  exact (h.wants_iff he).symm

/-- **The single searches tell what meets their conditions**, and with room for all elements they give
one and the same results, whatever the limit. -/
theorem exists_told {d : Desk} (hserved : d.Served) (hlive : d.seen.live = es.map projection)
    (hshort : q.Short) : ∃ single, q.Told single es ∧
      (∀ n : Int, es.length ≤ n → n ≤ maxWord →
        (∀ pattern ∈ q.name, ((read (.byName (.text pattern) (.int n))).outcome d).1 =
          .ok single.byName) ∧
        (∀ k ∈ q.kind, ((read (.byKind (.text k.name) (.int n))).outcome d).1 =
          .ok single.byKind) ∧
        ∀ parent ∈ q.parent, ((read (.byParent (.text parent) (.int n))).outcome d).1 =
          .ok single.byParent) ∧
      ∀ parent ∈ q.parent, ∀ x ∈ single.byParent, x.parentId = some parent := by
  obtain ⟨named, hlength, hnamed, hname⟩ := exists_byName hserved hlive (q.name.getD "")
  let ofKind := es.filter (·.kind = q.kind.getD .other)
  let children := es.filter (·.parentId = some (q.parent.getD ""))
  -- what is given is what the single search is made with
  have hgiven : ∀ {o : Option String} {s}, s ∈ given o → o.getD "" = s := by
    intro o s hs
    rw [(Option.mem_filter_iff.mp hs).1]
    rfl
  have hall : ∀ {part : List Element} {n : Int}, part.length ≤ es.length → es.length ≤ n →
      part.take n.toNat = part :=
    fun hpart hroom => List.take_of_length_le (by omega)
  refine ⟨⟨named.map Summary.ofElement, ofKind.map Summary.ofElement,
    children.map Summary.ofElement⟩, ⟨?_, ?_, ?_⟩, fun n hroom hn => ⟨?_, ?_, ?_⟩, ?_⟩
  · intro pattern hp e he
    rw [← hgiven hp]
    exact mem_summaries_iff (P := fun x => Meets x (.name, q.name.getD "")) hnamed he
  · intro k hk e he
    refine mem_summaries_iff (P := fun x => Meets x (.elementType, k.name)) (fun e' => ?_) he
    rw [List.mem_filter, decide_eq_true_eq, hk]
    exact and_congr_right fun _ => kind_name_injective.eq_iff.symm
  · intro parent hp e he
    refine mem_summaries_iff (P := fun x => Meets x (.parentId, parent)) (fun e' => ?_) he
    rw [List.mem_filter, decide_eq_true_eq, hgiven hp]
    exact Iff.rfl
  · intro pattern hp
    have hread := hname n hn
    rw [hall hlength hroom, hp] at hread
    exact hread
  · intro k hk
    have hread := outcome_byKind hserved hlive (kindOf_name k) hn
    rw [hall (List.length_filter_le _ _) hroom] at hread
    show _ = Except.ok ((es.filter (·.kind = q.kind.getD .other)).map Summary.ofElement)
    rw [hk]
    exact hread
  · intro parent hp
    have hread := outcome_byParent hserved hlive (hshort q.parent (by simp) parent hp) hn
    rw [hall (List.length_filter_le _ _) hroom] at hread
    show _ = Except.ok ((es.filter (·.parentId = some (q.parent.getD ""))).map Summary.ofElement)
    rw [hp]
    exact hread
  · intro parent hp x hx
    obtain ⟨e, he, rfl⟩ := List.mem_map.mp hx
    have hparent := of_decide_eq_true (List.mem_filter.mp he).2
    rw [hp] at hparent
    exact hparent

/-- Without a condition, and with a pattern that has no word, nothing is found. -/
theorem matching_eq_nil (hshort : q.Short)
    (h : q.query.isEmpty = true ∨ ∃ s ∈ given q.name, patternTerms s = []) (es : List Element) :
    Collection.matching (q.conditions.map clauseOf) es = [] := by
  rw [Collection.matching, List.filter_eq_nil_iff]
  intro e _ hfinds
  obtain ⟨hsome, hmeets⟩ := (finds_conditions hshort e).mp hfinds
  rcases h with hempty | ⟨s, hs, hterms⟩
  · exact hsome (isEmpty_query.mp hempty)
  · have hname : Fits (patternTerms s) (indexTerms e.name) := (forall_conditions.mp hmeets).1 s hs
    rw [hterms] at hname
    exact not_fits_nil _ hname

end Sought

/-- **An advanced search is the intersection of its conditions**, in every open handle that is served,
whatever was done to it and to others before. There is one list of hits, each of the documents that
are wanted once, of which the search gives as many as its limit says, so long as that is a machine
word. What is wanted is told by what the single searches give with room for all documents. -/
theorem advanced_eq_intersection {ι : Type} [DecidableEq ι] (p : Process ι) (turns : List (Turn ι))
    (i : ι) (now : Binary64) (s : Session) (q : Sought)
    (hclosed : ∀ i, (p.handle i).session = none) (hfiles : TracedFiles p.shelf.files)
    (hturns : ∀ t ∈ turns, t.deed.Traced)
    (hs : ((p.performAll turns).handle i).session = some s) (hserves : s.engine.source.Serves)
    (hshort : q.Short) :
    let d := (p.performAll turns).desk i now
    let answer := fun r => ((Desk.read r).outcome d).1
    ∃ (es : List Element) (single : Singles) (found : List Summary),
      d.seen.live = es.map projection ∧
      (∀ n : Int, n ≤ maxWord → answer (.advanced q.query (.int n)) = .ok (found.take n.toNat)) ∧
      (∀ n : Int, es.length ≤ n → n ≤ maxWord →
        (∀ pattern ∈ q.name, answer (.byName (.text pattern) (.int n)) = .ok single.byName) ∧
        (∀ k ∈ q.kind, answer (.byKind (.text k.name) (.int n)) = .ok single.byKind) ∧
        ∀ parent ∈ q.parent, answer (.byParent (.text parent) (.int n)) = .ok single.byParent) ∧
      found.Perm ((es.map Summary.ofElement).filter (q.wants single)) ∧
      (∀ parent ∈ q.parent, ∀ x ∈ single.byParent, x.parentId = some parent) ∧
      (∀ limit, q.query.isEmpty = true ↔
        (Desk.Read.advanced q.query limit).clauses = .ok (some [])) ∧
      (q.query.isEmpty = true ∨ (∃ pattern ∈ Sought.given q.name, patternTerms pattern = []) →
        found = []) := by
  intro d answer
  obtain ⟨hserved, es, hlive⟩ := Process.served_performAll hfiles hclosed hturns hs hserves now
  obtain ⟨single, htold, hsingle, hparents⟩ := q.exists_told hserved hlive hshort
  obtain ⟨hits, hperm, hhits⟩ :=
    Collection.exists_hits hlive (q.conditions.map Sought.clauseOf)
  -- the single searches have told `wants` its conditions; what is left is that the advanced search
  -- asks for those that are given
  refine ⟨es, single, hits.map Summary.ofElement, hlive, fun n hn => ?_, hsingle, ?_, hparents,
    fun limit => ?_, fun hnone => ?_⟩
  · rw [← List.map_take]
    exact outcome_read_hits hserved (q.clauses_advanced _) rfl hn hhits
  · rw [← htold.summaries_matching hshort]
    exact hperm.map _
  · rw [q.clauses_advanced limit, Sought.isEmpty_query]
    simp
  · rw [Sought.matching_eq_nil hshort hnone, List.perm_nil] at hperm
    rw [hperm]
    rfl

/-- Of two elements that were built, a search for a kind and a name gives the one. -/
theorem advanced_eq_intersection_pair :
    let e : Element := { id := "a", name := "Open index", payload := .member .method {} }
    let f : Element := { id := "b", name := "Open file", payload := .asset }
    let r := Process.single.performAll [⟨(), .zero, .openIndex fun _ => none⟩,
      ⟨(), .zero, .write (.build [.ok (some e), .ok (some f)])⟩]
    let q : Sought := { name := some "ope", kind := some (.member .method) }
    ∃ (single : Singles) (found : List Summary),
      ((Desk.read (.advanced q.query (.int 2))).outcome (r.desk () .zero)).1 =
        .ok (found.take 2) ∧
      ((Desk.read (.byName (.text "ope") (.int 2))).outcome (r.desk () .zero)).1 =
        .ok single.byName ∧
      found.Perm ([Summary.ofElement e, Summary.ofElement f].filter (q.wants single)) := by
  intro e f r q
  have hlive : (r.desk () .zero).seen.live = [projection e, projection f] := by decide +kernel
  obtain ⟨s, hs, hserves⟩ : ∃ s, (r.handle ()).session = some s ∧ s.engine.source.Serves :=
    ⟨_, rfl, ⟨rfl, rfl⟩⟩
  have hturns : ∀ t ∈ ([⟨(), .zero, .openIndex fun _ => none⟩,
      ⟨(), .zero, .write (.build [.ok (some e), .ok (some f)])⟩] : List (Turn Unit)),
      t.deed.Traced := by
    intro t ht
    simp only [List.mem_cons, List.not_mem_nil, or_false] at ht
    rcases ht with rfl | rfl
    · trivial
    · trivial
  have hshort : q.Short := by
    intro o ho s hs
    simp only [q, List.mem_cons, List.not_mem_nil, or_false, or_self] at ho
    rw [ho] at hs
    exact absurd hs nofun
  obtain ⟨es, single, found, hes, hadvanced, hsingle, hperm, -⟩ :=
    advanced_eq_intersection Process.single _ () .zero s q (fun _ => rfl) tracedFiles_empty hturns hs
      hserves hshort
  -- the documents are those of two elements with these summaries
  have hdocuments : es.map projection = [e, f].map projection := hes.symm.trans hlive
  have hlength : es.length = 2 := by
    rw [← List.length_map, hdocuments]
    rfl
  have hsummaries : es.map Summary.ofElement = [e, f].map Summary.ofElement := by
    have hmapped := congrArg (List.mapM Document.summary) hdocuments
    rw [mapM_summary, mapM_summary] at hmapped
    exact Except.ok.inj hmapped
  rw [hsummaries] at hperm
  obtain ⟨hname, -⟩ := hsingle 2 (by rw [hlength]; decide) (by decide)
  exact ⟨single, found, hadvanced 2 (by decide), hname "ope" rfl, hperm⟩

/-- **A limit that is no machine word** makes a search fail, however few documents there are. -/
theorem advanced_limit_too_wide :
    let e : Element := { id := "a", name := "a", payload := .member .method {} }
    let r := Process.single.performAll
      [⟨(), .zero, .openIndex fun _ => none⟩, ⟨(), .zero, .write (.update (some e))⟩]
    let q : Sought := { kind := some (.member .method) }
    (r.desk () .zero).seen.live = [projection e] ∧
      ((Desk.read (.advanced q.query (.int 18446744073709551616))).outcome (r.desk () .zero)).1 =
        .error (.fault .wordTooWide) := by
  decide +kernel

end CodeCatalog.Search
