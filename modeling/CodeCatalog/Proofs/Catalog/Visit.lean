/-
A visit to a catalogue: its index is opened, something is done, and the index is closed again.

The command line makes one visit for each command. Where an opening finds a collection, what is done
in the visit starts from that collection and nothing else (`visit_alike`): visits of the same index on
different files return the same and log the same. And where the engine is willing to the end, the
visit returns what was returned inside (`outcome_visit`) and gives back what it held.

Questions leave the files as the opening left them. A build either keeps the documents of the last
elements, one for each id, or fails and keeps what was there (`visit_build`).
-/
import CodeCatalog.Proofs.Catalog.Intake
import CodeCatalog.Proofs.Search.Overlooked
import CodeCatalog.Proofs.Storage.Growth

set_option autoImplicit false

namespace CodeCatalog

open Act Search

namespace Search.Desk

variable {shelf : Shelf} {base : Index} {place : Place} {c : Collection} {d : Desk}

/-- A willing engine stays willing where it holds something. -/
theorem Open.willing {k : Content} (h : Holds True shelf base place k d) :
    Open shelf base place (fun w => w.source.Willing) d :=
  h.mono fun _ hw => hw.source.willing trivial

/-- A build of elements that the index takes keeps their documents. -/
theorem Holds.build_taken (h : Holds True shelf base place (.settled c) d) {es : List Element}
    (hes : ∀ e ∈ es, Indexable e) :
    ∃ c', ((buildIndex (es.map fun e => .ok (some e))).outcome d).1 = .ok es.length ∧
      c'.live = es.map projection ∧ Holds True (shelf.keep place c') base place (.settled c')
        ((buildIndex (es.map fun e => .ok (some e))).outcome d).2 := by
  obtain ⟨n, t, hbuild, rfl, xs, c', hxs, hlive, hholds⟩ :=
    (triple_buildIndex fun _ e he => ⟨_, ofElement_projection (hes e he)⟩).exists_ok h
  rw [hbuild]
  exact ⟨c', rfl, hlive.trans (mapM_projection hxs), hholds⟩

/-- A build of elements that the index does not all take is refused, and everything is as it was. -/
theorem Holds.build_refused (h : Holds True shelf base place (.settled c) d) {es : List Element}
    (hes : ¬ ∀ e ∈ es, Indexable e) :
    ∃ e, ((buildIndex (es.map fun e => .ok (some e))).outcome d).1 = .error (.catalog e) ∧
      Holds True shelf base place (.settled c)
        ((buildIndex (es.map fun e => .ok (some e))).outcome d).2 := by
  -- a build that returned would have taken all elements
  have hfails : ∀ n t, (buildIndex (es.map fun e => .ok (some e))).outcome d ≠ (.ok n, t) := by
    intro n t hbuild
    have hholds : Holds False shelf base place (.settled c) d :=
      h.mono fun w hw => ⟨hw.rest, hw.source.content, False.elim⟩
    obtain ⟨-, xs, -, hxs, -⟩ := (triple_buildIndex False.elim).ok hholds hbuild
    exact hes (indexable_of_mapM hxs)
  obtain ⟨hshelf, w, hindex, hrest, hcontent, hwilling⟩ := h
  have hs : d.index.session = some ⟨w, place⟩ := by rw [hindex]
  have hunhindered : Unhindered ((buildIndex (es.map fun e => .ok (some e))).outcome d).2 := by
    refine sturdy_unhindered.buildIndex _ d fun s hs' => ?_
    obtain rfl := Option.some.inj (hs.symm.trans hs')
    exact ⟨hrest, hwilling trivial⟩
  have hending := ending_build (es.map fun e => .ok (some e)) hs hrest
  rw [Write.action, outcome_bind_pure] at hending
  rcases hr : (buildIndex (es.map fun e => .ok (some e))).outcome d with ⟨e | n, t⟩
  · rw [hr] at hending hunhindered
    obtain ⟨e', hreport, hleft⟩ | ⟨a, _, _, hdone, -⟩ := hending.of_willing (hwilling trivial)
    · obtain rfl := Except.error.inj hreport
      rw [hcontent] at hleft
      obtain ⟨hshelf', w', hindex', hleft⟩ := hleft
      have hs' : t.index.session = some ⟨w', place⟩ := by rw [hindex']
      refine ⟨_, rfl, hshelf'.trans hshelf, w', ?_, ?_, ?_, fun _ => (hunhindered _ hs').2⟩
      · rw [hindex', hindex]
      · rw [hleft.readers]
        exact hrest
      · exact hleft.content
    · cases hdone
  · exact absurd hr (hfails n t)

/-- **A build on a willing engine.** It returns just if the index takes all elements, and keeps their
documents; otherwise it is refused, and everything is as it was. -/
theorem Holds.build (h : Holds True shelf base place (.settled c) d) (es : List Element) :
    (∃ c', (∀ e ∈ es, Indexable e) ∧
      ((buildIndex (es.map fun e => .ok (some e))).outcome d).1 = .ok es.length ∧
      c'.live = es.map projection ∧ Holds True (shelf.keep place c') base place (.settled c')
        ((buildIndex (es.map fun e => .ok (some e))).outcome d).2) ∨
    (∃ e, ¬ (∀ e ∈ es, Indexable e) ∧
      ((buildIndex (es.map fun e => .ok (some e))).outcome d).1 = .error (.catalog e) ∧
      Holds True shelf base place (.settled c)
        ((buildIndex (es.map fun e => .ok (some e))).outcome d).2) := by
  by_cases hes : ∀ e ∈ es, Indexable e
  · obtain ⟨c', htaken⟩ := h.build_taken hes
    exact .inl ⟨c', hes, htaken⟩
  · obtain ⟨e, hrefused⟩ := h.build_refused hes
    exact .inr ⟨e, hes, hrefused⟩

end Search.Desk

namespace Catalog

open Desk (stateFile)

variable {α : Type} {k k' : Catalog} {q place : Place} {c : Collection} {files files' : Tree Artifact}

/-! ## Catalogues that differ in the files

Two processes may find the same index among different files, such as logs that have grown in one of
them. What they do with it runs in parallel. -/

/-- Catalogues that differ in the files alone, but hold the same at one place. -/
def Alike (q : Place) (k k' : Catalog) : Prop :=
  k'.store = k.store ∧ k'.limits = k.limits ∧ Desk.Alike q k.desk k'.desk

theorem parallel_onIndex {a : IndexAct α} (ha : Parallel (Desk.Alike q) a) :
    Parallel (Alike q) (onIndex a) :=
  ha.onPart (fun _ _ h => h.2.2) fun _ _ _ _ h hd => ⟨h.1, h.2.1, hd⟩

/-- Filling the store looks at no file. -/
theorem parallel_fillStore (es : Feed) : Parallel (Alike q) (fillStore es) := by
  rintro k k' ⟨hstore, hlimits, hdesk⟩
  show (((fillStore es).outcome k).1 = ((fillStore es).outcome k').1 ∧
    Alike q ((fillStore es).outcome k).2 ((fillStore es).outcome k').2)
  rw [fillStore, outcome_ofOutcome, outcome_ofOutcome, hstore]
  exact ⟨rfl, rfl, hlimits, hdesk⟩

/-- A build fills the store and rebuilds the index; neither looks at a file. -/
theorem parallel_build (es : Feed) : Parallel (Alike q) (build es) := by
  have hclear : Parallel (Alike q) (modify fun c => { c with store := .empty } : Act Catalog PUnit) :=
    Parallel.modify fun k k' h => ⟨rfl, h.2⟩
  have hdesk := Desk.overlooked_alike q
  refine hclear.bind fun _ => (parallel_fillStore es).bind fun _ => ?_
  refine Parallel.bind_get (fun k k' h => by rw [h.1]) fun k => ?_
  refine (parallel_onIndex (hdesk.buildIndex _)).bind fun count => ?_
  refine Parallel.bind (parallel_onIndex ?_) fun _ => Parallel.pure _
  exact hdesk.bind_get (fun d d' hindex _ => by rw [hindex]) fun d => hdesk.emit _ _ _

theorem parallel_search (a : Ask) : Parallel (Alike q) (search a) := by
  refine Parallel.bind_get (fun k k' h => by rw [h.2.1]) fun k => ?_
  exact (Parallel.ofFault _).bind fun r => parallel_onIndex ((Desk.overlooked_alike q).read r)

/-! ## Visits

A visit opens the index, does something and closes it again, as an invocation does. Its outcome is
that of what it does on the opened index, and the files it leaves are those of the index. -/

/-- Open the index, do something, and close the index again in any case. -/
def visit (act : Act Catalog α) : Act Catalog α := do
  onIndex Desk.openIndex
  let r ← Act.attempt act
  onIndex Desk.closeIndex
  match r with
  | .ok a => return a
  | .error f => throw f

/-- The catalogue whose index has been opened. -/
def opened (k : Catalog) (place : Place) (c : Collection) (files : Tree Artifact) : Catalog :=
  { k with desk := k.desk.opened place c files }

/-- An index that opens is opened, with what its folder keeps. -/
theorem outcome_openIndex (hclosed : k.desk.index.session = none)
    (h : Opens k.desk.shelf k.desk.index place c files) :
    (onIndex Desk.openIndex).outcome k = (.ok (), k.opened place c files) := by
  rw [onIndex, outcome_onPart, Desk.outcome_openIndex hclosed h]
  rfl

/-- **A visit returns what is returned inside**, and gives back what it held, if the engine is willing
to the end. -/
theorem outcome_visit {act : Act Catalog α} {r : Except Failure α} {shelf : Shelf}
    (hclosed : k.desk.index.session = none) (h : Opens k.desk.shelf k.desk.index place c files)
    (hact : act.outcome (k.opened place c files) = (r, k'))
    (hopen : Desk.Open shelf k.desk.index place (fun w => w.source.Willing) k'.desk) :
    ((visit act).outcome k).1 = r ∧ ((visit act).outcome k).2.desk.shelf =
      { shelf with claimed := shelf.claimed.filter (· ≠ k.desk.index.key) } := by
  have hclose := Desk.stands_closeIndex hopen
  have hok := Desk.closeIndex_ok hopen
  -- an attempt catches the failure of the action, so the closing runs in either case
  have hattempt : (Act.attempt act).outcome (k.opened place c files) = (.ok r, k') := by
    rw [outcome_attempt, hact]
  have hclosing : (onIndex Desk.closeIndex).outcome k' =
      (.ok (), { k' with desk := (Desk.closeIndex.outcome k'.desk).2 }) := by
    rw [onIndex, outcome_onPart, hok]
  rw [visit, outcome_bind_of_ok (outcome_openIndex hclosed h), outcome_bind_of_ok hattempt,
    outcome_bind_of_ok hclosing]
  rcases r with f | a
  · exact ⟨rfl, hclose.1⟩
  · exact ⟨rfl, hclose.1⟩

/-- **Visits that start from the same collection** return the same and keep the same collection, and
differ afterwards in the other files alone. -/
theorem visit_alike {act : Act Catalog α} (hact : Parallel (Alike (place ++ [stateFile])) act)
    {between : Tree Artifact}
    (hk : k' = { k with desk := { k.desk with shelf := { k.desk.shelf with files := between } } })
    (hclosed : k.desk.index.session = none) (h : Opens k.desk.shelf k.desk.index place c files)
    (h' : Opens k'.desk.shelf k'.desk.index place c files') :
    ((visit act).outcome k).1 = ((visit act).outcome k').1 ∧
      Alike (place ++ [stateFile]) ((visit act).outcome k).2 ((visit act).outcome k').2 := by
  subst hk
  have hopened : Alike (place ++ [stateFile]) (k.opened place c files)
      (opened _ place c files') :=
    ⟨rfl, rfl, files', rfl, h'.kept.state.trans h.kept.state.symm⟩
  -- what comes after the opening is made of parts that run alike, and so runs alike itself
  have hrest : Parallel (Alike (place ++ [stateFile])) (do
      let r ← Act.attempt act
      onIndex Desk.closeIndex
      match r with
      | .ok a => return a
      | .error f => throw f : Act Catalog α) := by
    refine hact.attempt.bind fun r => ?_
    refine (parallel_onIndex (Desk.overlooked_alike _).closeIndex).bind fun _ => ?_
    rcases r with f | a
    · exact Parallel.throw f
    · exact Parallel.pure a
  rw [visit, outcome_bind_of_ok (outcome_openIndex hclosed h),
    outcome_bind_of_ok (outcome_openIndex (by exact hclosed) h')]
  exact hrest _ _ hopened

/-! ## Questions

What only reads leaves the kept collection as it is, so a visit that asks something can be followed
by another one that finds the same. -/

/-- The action leaves an index settled as it was. -/
def Still (act : Act Catalog α) : Prop :=
  ∀ shelf base place c, Keeps (fun k : Catalog => Desk.Holds True shelf base place (.settled c) k.desk)
    act

theorem still_onIndex {a : IndexAct α} (ha : ∀ {P}, Desk.Steady P → Keeps P a) :
    Still (onIndex a) :=
  fun _ _ _ _ k hk => ha Desk.steady_open k.desk hk

/-- A search leaves everything still. -/
theorem still_search (a : Ask) : Still (search a) := by
  intro shelf base place c
  refine Keeps.get.bind fun k => Keeps.bind ?_ fun r => ?_
  · rcases readOf k.limits a with f | r
    · exact Keeps.fail f
    · exact Keeps.pure r
  · exact still_onIndex (fun h => h.read r) shelf base place c

theorem still_docCount : Still (onIndex Desk.docCount) :=
  still_onIndex fun h => h.docCount

/-- **A question** is answered from the collection that the opening found, and the files are left as
the opening left them. -/
theorem visit_still {act : Act Catalog α} (hact : Still act) (hclosed : k.desk.index.session = none)
    (h : Opens k.desk.shelf k.desk.index place c files) :
    ((visit act).outcome k).1 = (act.outcome (k.opened place c files)).1 ∧
      ((visit act).outcome k).2.desk.shelf = { k.desk.shelf with files := files } := by
  have hholds : Desk.Holds True { k.desk.shelf with
      files := files, claimed := k.desk.index.key :: k.desk.shelf.claimed } k.desk.index place
      (.settled c) (k.opened place c files).desk := Desk.holds_opened k.desk place c files
  have hleft := hact _ _ _ _ _ hholds
  -- what was open is closed again, so only the files are left of the visit
  rcases hr : act.outcome (k.opened place c files) with ⟨r, k'⟩
  rw [hr] at hleft
  obtain ⟨hvalue, hshelf⟩ := outcome_visit hclosed h hr (Desk.Open.willing hleft)
  refine ⟨hvalue, ?_⟩
  rw [hshelf, filter_claim h.free]

/-- What an opening found is counted. -/
theorem visit_docCount (hclosed : k.desk.index.session = none)
    (h : Opens k.desk.shelf k.desk.index place c files) :
    ((visit (onIndex Desk.docCount)).outcome k).1 = .ok c.live.length := by
  obtain ⟨-, w, hw, hrest, hcontent, hwilling⟩ :=
    Desk.holds_opened k.desk place c files
  have hvisible : w.source.visible = c := congrArg Content.visible hcontent
  have hcount := Desk.outcome_docCount hw hrest
  rw [(hwilling trivial).refusal? .searcher, hvisible] at hcount
  rw [(visit_still still_docCount hclosed h).1, onIndex, outcome_onPart]
  exact hcount

/-- A full name is looked up in what the opening found. -/
theorem visit_byFullName {es : List Element} {fullName : String}
    (hclosed : k.desk.index.session = none) (h : Opens k.desk.shelf k.desk.index place c files)
    (hlive : c.live = es.map projection)
    (hshort : fullName.utf8ByteSize < Document.maxValueBytes) :
    ((visit (search (.byFullName (.text fullName)))).outcome k).1 =
      .ok (((es.filter (·.fullName = fullName)).take 1).map Summary.ofElement) := by
  obtain ⟨hserved, hseen⟩ :=
    Desk.Open.served (Desk.holds_opened k.desk place c files)
  rw [← hseen] at hlive
  have hread := Desk.outcome_byFullName hserved hlive hshort
  rw [(visit_still (still_search _) hclosed h).1, search, outcome_bind, outcome_get]
  exact hread

/-! ## Builds

A visit that builds leaves the new collection in the folder, or what was there if the build fails.
-/

/-- **A build** either keeps the documents of the last element with each id and tells how many they
are, or is refused because the index cannot take one of them, and keeps what was there. -/
theorem visit_build (hclosed : k.desk.index.session = none)
    (h : Opens k.desk.shelf k.desk.index place c files) (es : List Element) :
    let r := (visit (build (es.map fun e => .ok (some e)))).outcome k
    (∃ c', (∀ e ∈ Store.latest es, Indexable e) ∧ r.1 = .ok (es.map (·.id)).eraseDups.length ∧
      c'.live = (Store.latest es).map projection ∧
      r.2.desk.shelf = Shelf.keep { k.desk.shelf with files := files } place c') ∨
    (∃ e, ¬ (∀ e ∈ Store.latest es, Indexable e) ∧ r.1 = .error (.catalog e) ∧
      r.2.desk.shelf = { k.desk.shelf with files := files }) := by
  intro r
  have hholds : Desk.Holds True { k.desk.shelf with
      files := files, claimed := k.desk.index.key :: k.desk.shelf.claimed } k.desk.index place
      (.settled c) (k.opened place c files).desk := Desk.holds_opened k.desk place c files
  obtain ⟨filled, hfill, hrecords, hdesk⟩ := exists_fillStore (k.opened place c files) es
  have hstored := hrecords.reflects.getAll_eq_latest
  rw [← hdesk] at hholds
  -- before the index the build only looks at the store, and after it only at the log
  have hbuild : (build (es.map fun e => .ok (some e))).outcome (k.opened place c files) =
      (do
        let count ← onIndex (Desk.buildIndex ((Store.latest es).map fun e => .ok (some e)))
        onIndex do
          let d ← get
          Desk.emit .info "code_index_built"
            [("elements", .int count), ("path", .text d.index.path.text)]
        return count : Act Catalog Nat).outcome filled := by
    rw [build, outcome_bind_of_ok (outcome_modify _ _), outcome_bind_of_ok hfill,
      outcome_bind_of_ok (outcome_get filled), hstored]
  have hends := Desk.Holds.build hholds (Store.latest es)
  rcases hr : (Desk.buildIndex ((Store.latest es).map fun e => .ok (some e))).outcome
    filled.desk with ⟨e, d⟩
  have hindex : (onIndex (Desk.buildIndex ((Store.latest es).map fun e => .ok (some e)))).outcome
      filled = (e, { filled with desk := d }) := by
    rw [onIndex, outcome_onPart, hr]
  rw [hr] at hends
  rcases hends with ⟨c', hes, rfl, hlive, hd⟩ | ⟨e, hes, rfl, hd⟩
  · rw [outcome_bind_of_ok hindex] at hbuild
    obtain ⟨hvalue, hshelf⟩ := outcome_visit hclosed h hbuild (Desk.Open.willing hd)
    refine .inl ⟨c', hes, ?_, hlive, ?_⟩
    · rw [← Store.length_latest]
      exact hvalue
    · rw [hshelf, Shelf.keep, Shelf.keep, filter_claim h.free]
  · rw [outcome_bind_of_error hindex] at hbuild
    obtain ⟨hvalue, hshelf⟩ := outcome_visit hclosed h hbuild (Desk.Open.willing hd)
    refine .inr ⟨e, hes, hvalue, ?_⟩
    rw [hshelf, filter_claim h.free]

end Catalog

end CodeCatalog
