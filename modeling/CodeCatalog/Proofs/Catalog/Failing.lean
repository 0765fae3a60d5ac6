/-
What a build leaves that fails.

A build works in three phases. It empties the store and fills it with the elements as they come; it
hands what the store then has to the index; and the index writes documents up to a commit. The first
phase is not undone, the last one is. So a build that fails leaves a store of exactly those elements
that it was given before it failed, and never one of the elements that were there before it; and it
leaves the documents of the index as they were, committed and visible ones. `Mishap` lists the ways
to fail, each with the elements that had come by then. A build fails in no other way, unless the
engine refuses to take back what was written or to show what was committed (`build_failed`).
-/
import CodeCatalog.Proofs.Catalog.Agreement
import CodeCatalog.Proofs.Search.Failing

set_option autoImplicit false

namespace CodeCatalog

/-! ## Feeds

A feed gives elements, and may give nothing in an element's place or break off. Every feed either
gives all its elements or has a first place where it does not; there is no third case. -/

namespace Store

variable {es : Feed} {f : Failure}

/-- Elements that come one after another, all of them present. -/
def present (es : List Element) : Feed :=
  es.map fun e => .ok (some e)

/-- A store that takes elements as they come has those before the first that is absent or fails. -/
theorem addAll_eq_foldl (s : Store) (es : Feed) : (s.addAll es).1 = (added es).foldl insert s := by
  induction es generalizing s with
  | nil => rfl
  | cons x rest ih =>
    rcases x with f | _ | e
    · rfl
    · rfl
    · exact ih (s.insert e)

/-- A feed of elements that are all there does not fail. -/
theorem feedFailure?_present (es : List Element) : feedFailure? (present es) = none := by
  induction es with
  | nil => rfl
  | cons e es ih => exact ih

/-- The elements before a failure have no part in it. -/
theorem feedFailure?_append (es : List Element) (rest : Feed) :
    feedFailure? (present es ++ rest) = feedFailure? rest := by
  induction es with
  | nil => rfl
  | cons e es ih => exact ih

/-- **Every feed** is present as a whole, or it ends with an absent element or a failure. -/
theorem feed_cases (es : Feed) : es = present (added es) ∨
    (∃ rest, es = present (added es) ++ .ok none :: rest ∧
      feedFailure? es = some (.catalog (.missingArgument "element"))) ∨
    ∃ f rest, es = present (added es) ++ .error f :: rest ∧ feedFailure? es = some f := by
  induction es with
  | nil => exact .inl rfl
  | cons x rest ih =>
    rcases x with f | _ | e
    · exact .inr (.inr ⟨f, rest, rfl, rfl⟩)
    · exact .inr (.inl ⟨rest, rfl, rfl⟩)
    · -- an element that is present only stands in front
      rcases ih with h | ⟨rest', h, hf⟩ | ⟨f, rest', h, hf⟩
      · exact .inl (congrArg (.ok (some e) :: ·) h)
      · exact .inr (.inl ⟨rest', congrArg (.ok (some e) :: ·) h, hf⟩)
      · exact .inr (.inr ⟨f, rest', congrArg (.ok (some e) :: ·) h, hf⟩)

end Store

namespace Catalog

open Act Search

variable {c t : Catalog} {es : List Element} {feed : Feed} {f : Failure} {d : Desk}

/-! ## The phases of a build

A build that fails does so while the store is filled or while the index is rebuilt. In the first
case the index is never asked; in the second the store is full already, and nobody takes that back.
-/

/-- A feed that fails ends a build before the index is asked. -/
theorem build_of_feedFailure (h : Store.feedFailure? feed = some f) : (build feed).outcome c =
    (.error f, { c with store := (Store.added feed).foldl Store.insert .empty }) := by
  have hfill := outcome_fillStore feed c
  rw [h, Store.addAll_eq_foldl] at hfill
  rw [build, outcome_bind_of_ok (outcome_modify _ c), outcome_bind_of_error hfill]

/-- **A build of elements that are all present** fails just as its index does with the latest of
them: the line in the log at the end cannot fail. -/
theorem build_present_error : (build (Store.present es)).outcome c = (.error f, t) ↔
    (Desk.buildIndex (Store.present (Store.latest es))).outcome c.desk = (.error f, t.desk) ∧
      t = { c with store := es.foldl Store.insert .empty, desk := t.desk } := by
  have hfill := outcome_fillStore (Store.present es) c
  rw [Store.feedFailure?_present] at hfill
  obtain ⟨hrecords, -⟩ := fillStore_outcome hfill
  have hstore : (Store.empty.addAll (Store.present es)).1 = es.foldl Store.insert .empty := by
    rw [Store.addAll_eq_foldl, Store.present, Store.added_map]
  rw [hstore] at hfill hrecords
  rw [build, outcome_bind_of_ok (outcome_modify _ c), outcome_bind_of_ok hfill,
    outcome_bind_of_ok (outcome_get _)]
  dsimp only
  rw [hrecords.reflects.getAll_eq_latest, onIndex, outcome_bind, outcome_onPart, ← Store.present]
  dsimp only
  -- behind the index there is only the line in the log
  rcases (Desk.buildIndex (Store.present (Store.latest es))).outcome c.desk with ⟨f' | n, d⟩
  · constructor
    · intro h
      obtain ⟨hf, rfl⟩ := Prod.mk.inj h
      exact ⟨Prod.ext hf rfl, rfl⟩
    · rintro ⟨h, ht⟩
      obtain ⟨hf, hd⟩ := Prod.mk.inj h
      rw [ht, ← hd, ← Except.error.inj hf]
  · constructor
    · rintro ⟨⟩
    · rintro ⟨⟨⟩, -⟩

/-- A build of the index fails just where it fails as a write. -/
theorem outcome_buildIndex_error {d' : Desk} : (Desk.buildIndex feed).outcome d = (.error f, d') ↔
    (Write.build feed).action.outcome d = (.error f, d') := by
  rw [Write.action, outcome_bind]
  rcases (Desk.buildIndex feed).outcome d with ⟨f' | n, t⟩
  · simp
  · simp

/-! ## The documents of an index

What has to be the same after a failed build is what the index holds and shows, not how its engine
came to it. -/

/-- **The index has the same documents**, committed and visible ones, and so have its files. -/
structure SameDocuments (c t : Catalog) : Prop where
  shelf : t.desk.shelf = c.desk.shelf
  closed : c.desk.index.session = none → t.desk.index.session = none
  session : ∀ s, c.desk.index.session = some s → ∃ s', t.desk.index.session = some s' ∧
    s'.place = s.place ∧ s'.engine.source.committed = s.engine.source.committed ∧
    s'.engine.source.visible = s.engine.source.visible

theorem sameDocuments_of_desk (h : t.desk = c.desk) : SameDocuments c t := by
  refine ⟨by rw [h], fun hclosed => by rw [h, hclosed], fun s hs => ⟨s, ?_, rfl, rfl, rfl⟩⟩
  rw [h, hs]

/-- A session that is left as it was, but for what waits, has the same documents. -/
theorem sameDocuments_of_left {s : Session} {k : Content} (hs : c.desk.index.session = some s)
    (hleft : Desk.Left c.desk s c.desk.shelf s.engine.readers k t.desk)
    (hcommitted : k.committed = s.engine.source.committed)
    (hvisible : k.visible = s.engine.source.visible) : SameDocuments c t := by
  obtain ⟨hshelf, w, hindex, hw⟩ := hleft
  refine ⟨hshelf, fun hclosed => ?_, fun s' hs' => ?_⟩
  · rw [hs] at hclosed
    exact absurd hclosed nofun
  -- the session is the same one, with another engine
  · obtain rfl := Option.some.inj (hs.symm.trans hs')
    refine ⟨⟨w, s.place⟩, ?_, rfl, ?_, ?_⟩
    · rw [hindex]
    · exact (congrArg Content.committed hw.content).trans hcommitted
    · exact (congrArg Content.visible hw.content).trans hvisible

/-! ## Failing builds

Each way for a build to fail is a case of `Mishap`, with the failure that gets out. A case analysis
then gives one theorem: the index is as before, and the store is a new one with the elements that
came before the failure. -/

/-- The steps that a build of elements asks of the index, up to the commit. -/
def indexSteps (es : List Element) : IndexAct Unit :=
  (Write.build (Store.present (Store.latest es))).steps

/-- **What can go wrong with a build** of elements that come, and what gets out. -/
inductive Mishap (c : Catalog) : Feed → Failure → Prop
  /-- An element is absent. -/
  | absent (es : List Element) (rest : Feed) : Mishap c (Store.present es ++ .ok none :: rest)
      (.catalog (.missingArgument "element"))
  /-- The elements stop coming. -/
  | raised (es : List Element) (f : Failure) (rest : Feed) :
      Mishap c (Store.present es ++ .error f :: rest) f
  /-- All elements have come, and the index is closed. -/
  | closed (es : List Element) (hclosed : c.desk.index.session = none) :
      Mishap c (Store.present es) (.catalog (.closed "build index"))
  /-- All elements have come, the index fails before it has committed, and takes back what it wrote.
  -/
  | undone (es : List Element) {s : Session} {e : Failure} (hs : c.desk.index.session = some s)
      (hsteps : ((indexSteps es).outcome c.desk).1 = .error e)
      (hrollback : s.engine.source.refusal? .rollback = none) :
      Mishap c (Store.present es) (.catalog (.writeFailed "build_index" e.text))

/-- The index fails before it has committed, and its engine refuses to take back what it wrote. -/
def Stuck (c : Catalog) (es : List Element) : Prop :=
  ∃ s e f, c.desk.index.session = some s ∧ ((indexSteps es).outcome c.desk).1 = .error e ∧
    s.engine.source.refusal? .rollback = some f

/-- The index has committed, and its engine refuses to show that. -/
def Unseen (c : Catalog) (es : List Element) : Prop :=
  ∃ s f, c.desk.index.session = some s ∧ ((indexSteps es).outcome c.desk).1 = .ok () ∧
    s.engine.source.refusal? .reload = some f

theorem outcome_buildIndex_closed (h : d.index.session = none) :
    (Desk.buildIndex feed).outcome d = (.error (.catalog (.closed "build index")), d) := by
  rw [Desk.buildIndex, outcome_bind_of_error (Desk.outcome_requireWriter_closed h _)]

/-- What gets out of the index's own build, where all elements have come. -/
theorem outcome_index (hbacked : c.desk.Backed)
    (h : (Desk.buildIndex (Store.present (Store.latest es))).outcome c.desk = (.error f, t.desk)) :
    SameDocuments c t ∧ (Mishap c (Store.present es) f ∨ Stuck c es) ∨ Unseen c es := by
  rcases hs : c.desk.index.session with _ | s
  · -- a closed index refuses at once
    obtain ⟨hf, hdesk⟩ := Prod.mk.inj ((outcome_buildIndex_closed hs).symm.trans h)
    obtain rfl := Except.error.inj hf
    exact .inl ⟨sameDocuments_of_desk hdesk.symm, .inl (.closed es hs)⟩
  · have hending := Desk.ending_of_session (w := .build (Store.present (Store.latest es))) rfl hs
      (hbacked s hs).1
    rw [outcome_buildIndex_error.mp h] at hending
    cases hending with
    | undone hsteps hrollback hleft =>
      exact .inl ⟨sameDocuments_of_left hs hleft rfl rfl, .inl (.undone es hs hsteps hrollback)⟩
    | stuck hsteps hrollback _ _ hleft =>
      exact .inl ⟨sameDocuments_of_left hs hleft rfl rfl, .inr ⟨s, _, _, hs, hsteps, hrollback⟩⟩
    | escaped hsteps hrollback _ _ hleft =>
      exact .inl ⟨sameDocuments_of_left hs hleft rfl rfl, .inr ⟨s, _, _, hs, hsteps, hrollback⟩⟩
    | unseen hsteps hreload _ _ => exact .inr ⟨s, _, hs, hsteps, hreload⟩

/-- A mishap ends a build. -/
theorem Mishap.outcome (hbacked : c.desk.Backed) (h : Mishap c feed f) :
    ∃ t, (build feed).outcome c = (.error f, t) ∧
      t.store = (Store.added feed).foldl Store.insert .empty ∧ SameDocuments c t := by
  -- before the desk is reached the documents cannot have changed; where the writing itself fails,
  -- the session has undone it
  cases h with
  | absent es rest =>
    have hfeed := Store.feedFailure?_append es (.ok none :: rest)
    exact ⟨_, build_of_feedFailure hfeed, rfl, sameDocuments_of_desk rfl⟩
  | raised es f rest =>
    have hfeed := Store.feedFailure?_append es (.error f :: rest)
    exact ⟨_, build_of_feedFailure hfeed, rfl, sameDocuments_of_desk rfl⟩
  | closed es hclosed =>
    refine ⟨{ c with store := es.foldl Store.insert .empty },
      build_present_error.mpr ⟨outcome_buildIndex_closed hclosed, rfl⟩, ?_,
      sameDocuments_of_desk rfl⟩
    rw [Store.present, Store.added_map]
  | undone es hs hsteps hrollback =>
    have hending := Desk.ending_of_session (w := .build (Store.present (Store.latest es))) rfl hs
      (hbacked _ hs).1
    rcases hr : (Write.build (Store.present (Store.latest es))).action.outcome c.desk with ⟨r, d⟩
    rw [hr] at hending
    obtain ⟨rfl, hleft⟩ := hending.of_accepted hsteps hrollback
    refine ⟨{ c with store := es.foldl Store.insert .empty, desk := d },
      build_present_error.mpr ⟨outcome_buildIndex_error.mpr hr, rfl⟩, ?_,
      sameDocuments_of_left hs hleft rfl rfl⟩
    rw [Store.present, Store.added_map]

/-- **A failing build.** Whatever has happened to a catalogue, each mishap makes a build fail, and
so does an element without a document. A build that fails leaves a store of the elements that had
come, as if they had been added to a new one, and nothing else; and it leaves the documents of the
index as they were. A build that fails otherwise has been given all its elements, and the engine has
refused something: to take back what was written, which is not among the documents but waits on, or,
after the commit, to show it. -/
theorem build_failed (shelf : Shelf) (path : Path) (index : IndexSettings) (limits : LimitSettings)
    (before : List Call) :
    let c := (new shelf path index limits).run before
    (∀ feed f, Mishap c feed f → ∃ t, (build feed).outcome c = (.error f, t) ∧
      t.store = (Store.added feed).foldl Store.insert .empty ∧ SameDocuments c t) ∧
    (∀ es, (∃ e ∈ Store.latest es, ¬ Indexable e) → ∃ f t,
      (build (Store.present es)).outcome c = (.error f, t)) ∧
    ∀ feed f t, (build feed).outcome c = (.error f, t) →
      t.store = (Store.added feed).foldl Store.insert .empty ∧
      (Mishap c feed f ∨
        ∃ es, feed = Store.present es ∧ (Stuck c es ∧ SameDocuments c t ∨ Unseen c es)) := by
  intro c
  have hbacked : c.desk.Backed := backed_run shelf path index limits before
  refine ⟨fun feed f h => h.outcome hbacked, fun es ⟨e, he, hbad⟩ => ?_, fun feed f t h => ?_⟩
  · -- a build that returns has made a document of each element that the store has
    rcases hr : (build (Store.present es)).outcome c with ⟨f | n, t⟩
    · exact ⟨f, t, rfl⟩
    · obtain ⟨-, -, hrecords, -, k, -, hdocuments⟩ := build_outcome hbacked hr
      rw [hrecords.reflects.getAll_eq_latest] at hdocuments
      exact absurd (indexable_of_mapM hdocuments e he) hbad
  · -- what has come by the failure is told by how the feed ends
    rcases Store.feed_cases feed with hfeed | ⟨rest, hfeed, hfailure⟩ | ⟨f', rest, hfeed, hfailure⟩
    · rw [hfeed] at h ⊢
      obtain ⟨hindex, ht⟩ := build_present_error.mp h
      refine ⟨?_, ?_⟩
      · rw [ht, Store.present, Store.added_map]
      · rcases outcome_index hbacked hindex with ⟨hsame, hmishap | hstuck⟩ | hunseen
        · exact .inl hmishap
        · exact .inr ⟨_, rfl, .inl ⟨hstuck, hsame⟩⟩
        · exact .inr ⟨_, rfl, .inr hunseen⟩
    · obtain ⟨hf, rfl⟩ := Prod.mk.inj ((build_of_feedFailure hfailure).symm.trans h)
      refine ⟨rfl, .inl ?_⟩
      rw [hfeed, ← Except.error.inj hf]
      exact .absent _ _
    · obtain ⟨hf, rfl⟩ := Prod.mk.inj ((build_of_feedFailure hfailure).symm.trans h)
      refine ⟨rfl, .inl ?_⟩
      rw [hfeed, ← Except.error.inj hf]
      exact .raised _ _ _

/-- A build over a build, whose commit finds the disk full: the store has the new element alone, and
the index still shows the old one alone. -/
theorem build_failed_uncommitted :
    let old : Element := { id := "a", name := "Old", payload := .asset }
    let new : Element := { id := "b", name := "New", payload := .asset }
    let c := (Catalog.new {} ⟨1, ["index"]⟩ {} {}).run [.openIndex, .build (Store.present [old]),
      .tell (Engine.Script.failing (fun _ => []) .commit 1
        (.raised .file "no space left on device"))]
    ∃ t, (build (Store.present [new])).outcome c =
        (.error (.catalog (.writeFailed "build_index" "no space left on device")), t) ∧
      t.store.getAll = [new] ∧
      ∃ s, t.desk.index.session = some s ∧ s.engine.source.visible.live = [projection old] := by
  intro old new c
  -- what the engine answers here is computed; that a commit without space leaves everything in
  -- place is the general result
  obtain ⟨s, hs, hrollback, hvisible⟩ : ∃ s, c.desk.index.session = some s ∧
      s.engine.source.refusal? .rollback = none ∧
      s.engine.source.visible.live = [projection old] := ⟨_, rfl, rfl, by decide +kernel⟩
  have hsteps : ((indexSteps [new]).outcome c.desk).1 =
    .error (.fault (.raised .file "no space left on device")) := by decide +kernel
  obtain ⟨t, hbuild, hstore, hsame⟩ := (build_failed {} ⟨1, ["index"]⟩ {} {} _).1 _ _
    (.undone [new] hs hsteps hrollback)
  obtain ⟨s', hs', -, -, hseen⟩ := hsame.session s hs
  refine ⟨t, hbuild, ?_, s', hs', ?_⟩
  · rw [hstore]
    rfl
  · rw [hseen, hvisible]

end Catalog

end CodeCatalog
