/-
What a write to an open index leaves behind.

A desk is `Open` where its handle has a session at a place, and nothing else is said about handle
and shelf than what they are. Below the session the engine has some content, and each of the steps of
a write changes that content in one way: a change waits, what waits is carried out, the last commit
is seen. So a write is a sequence of triples, and what it leaves is the commit of its changes, seen by
readers and kept in the folder, with nothing waiting.

The failures of a write all end in the same report. They are not described further: a triple says
what a success means, and with willing engines there is no failure.
-/
import CodeCatalog.Proofs.Search.Engine
import CodeCatalog.Search.Index

set_option autoImplicit false

namespace CodeCatalog.Search

open Act Log

/-! ## Changes

Changes that wait are made one after the other when they are committed. Adding goes to the end, and
clearing leaves nothing. -/

namespace Collection

theorem changeAll_append (c : Collection) (xs ys : List Change) :
    c.changeAll (xs ++ ys) = (c.changeAll xs).changeAll ys :=
  List.foldl_append

/-- Documents that are added stand behind those that are there. -/
theorem live_changeAll_add (c : Collection) (ds : List Document) :
    (c.changeAll (ds.map .add)).live = c.live ++ ds := by
  induction ds generalizing c with
  | nil => exact (List.append_nil _).symm
  | cons d ds ih =>
    show ((c.change (.add d)).changeAll (ds.map .add)).live = _
    rw [ih, change, List.append_assoc, List.singleton_append]

/-- After a clearing only the documents that are added are there, whatever waited before. -/
theorem live_changeAll_clear (c : Collection) (waiting : List Change) (ds : List Document) :
    (c.changeAll (waiting ++ [.clear] ++ ds.map .add)).live = ds := by
  rw [changeAll_append, changeAll_append, live_changeAll_add]
  rfl

end Collection

/-! ## Open desks

An open desk is told by its shelf, its handle, its place and a property of its engine. What is done
to the engine changes that property alone. -/

theorem Index.isOpen_eq_false {i : Index} : i.isOpen = false ↔ i.session = none := by
  rw [Index.isOpen, Option.isSome_eq_false_iff, Option.isNone_iff_eq_none]

/-- A handle with a session is open. -/
theorem Index.isOpen_of_session {i : Index} {s : Session} (h : i.session = some s) :
    i.isOpen = true := by
  rw [Index.isOpen, h]
  rfl

/-- The shelf with a collection kept in the folder of an index. -/
def Shelf.keep (shelf : Shelf) (place : Place) (c : Collection) : Shelf :=
  { shelf with
    files := shelf.files.put (place ++ [Desk.stateFile]) (Artifact.collection c).entry }

namespace Desk

/-- The shelf is this one, and the handle is open at a place, with an engine as `W` says. -/
def Open (shelf : Shelf) (base : Index) (place : Place) (W : Watched Engine → Prop) (d : Desk) :
    Prop :=
  d.shelf = shelf ∧ ∃ w, d.index = { base with session := some ⟨w, place⟩ } ∧ W w

/-- The handle is open, and the engine below it has the content. -/
abbrev Holds (sure : Prop) (shelf : Shelf) (base : Index) (place : Place) (k : Content) :
    Desk → Prop :=
  Open shelf base place (Watched.Has sure k)

variable {sure : Prop} {shelf : Shelf} {base : Index} {place : Place} {k k' : Content}
  {W : Watched Engine → Prop} {α : Type}

/-- What is known of an open handle's engine is known of an open handle. -/
theorem Open.isOpen {d : Desk} (h : d.Open shelf base place W) : d.index.isOpen = true := by
  obtain ⟨-, w, hw, -⟩ := h
  rw [hw]
  rfl

/-- An open handle has its session in its place. -/
theorem Open.of_session {d : Desk} {s : Session} (h : d.Open shelf base place W)
    (hs : d.index.session = some s) : s.place = place ∧ W s.engine := by
  obtain ⟨-, w, hw, hW⟩ := h
  rw [hw] at hs
  obtain rfl : ⟨w, place⟩ = s := Option.some.inj hs
  exact ⟨rfl, hW⟩

/-- What the engine is left with an open handle is left with. -/
theorem triple_onEngine {absent : Failure} {a : Act (Watched Engine) α}
    {W' : α → Watched Engine → Prop} (ha : Triple sure W a W') :
    Triple sure (Open shelf base place W) (onEngine absent a)
      fun x => Open shelf base place (W' x) := by
  rintro d ⟨hshelf, w, hw, hW⟩
  have h := ha w hW
  rw [onEngine, outcome_ofOutcome, hw]
  dsimp only
  rcases hr : a.outcome w with ⟨_ | x, t⟩ <;> rw [hr] at h
  · exact h
  · exact ⟨hshelf, t, rfl, h⟩

/-- An action on the engine keeps what an invariant of the engine stands for. -/
theorem keeps_onEngine_of {P : Desk → Prop} {absent : Failure} {a : Act (Watched Engine) α}
    (h : ∀ d s, P d → d.index.session = some s → ∃ W, Keeps W a ∧ W s.engine ∧
      ∀ w, W w → P { d with index := { d.index with session := some { s with engine := w } } }) :
    Keeps P (onEngine absent a) := by
  intro d hd
  rw [onEngine, outcome_ofOutcome]
  rcases hs : d.index.session with _ | s
  · exact hd
  · obtain ⟨W, ha, hW, hP⟩ := h d s hd hs
    exact hP _ (ha _ hW)

/-- What the engine keeps an open handle keeps. -/
theorem keeps_onEngine {absent : Failure} {a : Act (Watched Engine) α} (ha : Keeps W a) :
    Keeps (Open shelf base place W) (onEngine absent a) := by
  refine keeps_onEngine_of ?_
  rintro d s ⟨hshelf, w, hw, hW⟩ hs
  rw [hw] at hs
  obtain rfl : s = ⟨w, place⟩ := (Option.some.inj hs).symm
  refine ⟨W, ha, hW, fun w' hw' => ⟨hshelf, w', ?_, hw'⟩⟩
  rw [hw]

/-- A call of the writer leaves the handle with what the engine then has. -/
theorem triple_onWriter {operation : String} {a : Act Engine Unit}
    (ha : Triple sure (Engine.Has sure k) a fun _ => Engine.Has sure k') :
    Triple sure (Holds sure shelf base place k) (onWriter operation a)
      fun _ => Holds sure shelf base place k' :=
  triple_onEngine (Watched.triple_onSource ha)

/-! ## Small steps

The steps that all writes have in common. -/

/-- Writing to the log leaves the engine alone. -/
theorem triple_emit (level : Level) (name : String) (context : Json.Fields) :
    Triple sure (Open shelf base place W) (emit level name context)
      fun _ => Open shelf base place W :=
  Triple.modify fun _ h => h

/-- An open handle has a writer. -/
theorem outcome_requireWriter {d : Desk} (h : d.index.isOpen = true) (operation : String) :
    (requireWriter operation).outcome d = (.ok (), d) := by
  rw [requireWriter, outcome_bind, outcome_get]
  dsimp only
  rw [h]
  rfl

/-- A closed handle has none, and says which operation wanted one. -/
theorem outcome_requireWriter_closed {d : Desk} (h : d.index.session = none) (operation : String) :
    (requireWriter operation).outcome d = (.error (.catalog (.closed operation)), d) := by
  rw [requireWriter, outcome_bind, outcome_get]
  dsimp only
  rw [Index.isOpen_eq_false.mpr h]
  rfl

/-- Asking for a writer leaves the engine alone. -/
theorem triple_requireWriter (operation : String) :
    Triple sure (Open shelf base place W) (requireWriter operation)
      fun _ => Open shelf base place W := by
  intro d hd
  rw [outcome_requireWriter hd.isOpen]
  exact hd

/-- A commit is kept in the folder. -/
theorem triple_commit (operation : String) :
    Triple sure (Holds sure shelf base place k) (commit operation)
      fun _ => Holds sure (shelf.keep place k.commit.committed) base place k.commit := by
  refine (triple_onWriter Engine.triple_commit).bind fun _ => Triple.modify ?_
  rintro d ⟨hshelf, w, hw, hW⟩
  simp only [hw]
  refine ⟨?_, w, rfl, hW⟩
  simp only [Shelf.keep, hshelf, hW.committed]

/-- A refresh that is asked for makes the last commit visible. -/
theorem triple_requestRefresh :
    Triple sure (Holds sure shelf base place k) requestRefresh
      fun _ => Holds sure shelf base place k.reload := by
  refine Triple.get.bind fun _ => Triple.discard ?_
  exact triple_onEngine Watched.triple_maybeRefresh_force

/-- A write that failed is reported, so nothing was sure. -/
theorem triple_writeFailed {operation event : String} {context : Json.Fields} {e : Failure}
    {Q : α → Desk → Prop} :
    Triple sure (fun _ => ¬ sure) (writeFailed operation event context e) Q := by
  -- a report and a rollback come first, and then the failure is raised in any case
  refine Triple.of_never (fun d x t h => ?_) fun _ hd => hd
  rw [writeFailed] at h
  obtain ⟨_, d₁, -, h⟩ := outcome_bind_ok.mp h
  obtain ⟨_, d₂, -, h⟩ := outcome_bind_ok.mp h
  exact absurd h (by simp)

/-! ## Documents that wait

An element waits to be added as its document. Several of them wait in their order, up to the first
that cannot be projected. -/

/-- The document of an element waits, if it has one. -/
theorem triple_addElement {operation : String} {e : Element}
    (he : sure → ∃ x, Document.ofElement e = .ok x) :
    Triple sure (Holds sure shelf base place k) (addElement operation e) fun _ d =>
      ∃ x, Document.ofElement e = .ok x ∧
        Holds sure shelf base place (k.enqueue (.add x)) d := by
  rw [addElement]
  rcases hx : Document.ofElement e with f | x
  · refine Triple.fail fun d _ hsure => ?_
    obtain ⟨x, hx'⟩ := he hsure
    rw [hx] at hx'
    exact absurd hx' nofun
  · exact (triple_onWriter (Engine.triple_enqueue _ _)).mono fun _ d hd => ⟨x, rfl, hd⟩

/-- One document after another waits, and the elements are counted. -/
theorem triple_addElements {es : List Element} {count : Nat}
    (hes : sure → ∀ e ∈ es, ∃ x, Document.ofElement e = .ok x) :
    Triple sure (Holds sure shelf base place k)
      (addElements (es.map fun e => .ok (some e)) count) fun r d => match r.2 with
        | none => r.1 = count + es.length ∧ ∃ xs, es.mapM Document.ofElement = .ok xs ∧
            Holds sure shelf base place { k with pending := k.pending ++ xs.map .add } d
        | some _ => ¬ sure := by
  -- each element makes what waits longer by one, so the content is generalized with the count
  induction es generalizing count k with
  | nil =>
    refine Triple.pure fun d hd => ⟨rfl, [], rfl, ?_⟩
    rw [List.map_nil, List.append_nil]
    exact hd
  | cons e es ih =>
    have he : Triple sure (Holds sure shelf base place k) (addElement "build_index" e) fun _ d =>
        ∃ x, Document.ofElement e = .ok x ∧ Holds sure shelf base place (k.enqueue (.add x)) d :=
      triple_addElement fun h => hes h e (by simp)
    refine he.attempt.bind fun r => ?_
    rcases r with f | _
    · exact Triple.pure fun d hd => hd
    · rintro d ⟨x, hx, hd⟩
      have hrest : ∀ h e, e ∈ es → ∃ x, Document.ofElement e = .ok x :=
        fun h e he => hes h e (by simp [he])
      refine (ih hrest).mono ?_ d hd
      rintro ⟨n, _ | f⟩ d hpost
      · obtain ⟨hn, xs, hxs, hd⟩ := hpost
        refine ⟨?_, x :: xs, ?_, ?_⟩
        · rw [List.length_cons]
          omega
        · rw [List.mapM_cons, hx, hxs]
          rfl
        · simpa [Content.enqueue] using hd
      · exact hpost

/-! ## Writes

Each of the three writes as a triple: with a willing engine and elements that can be indexed it
succeeds, and commits what it should. -/

/-- What a rebuild leaves when it comes to its end: the documents of the elements. -/
def Rebuilt (sure : Prop) (shelf : Shelf) (base : Index) (place : Place) (es : List Element)
    (visible : Collection → Collection) (d : Desk) : Prop :=
  ∃ xs c, es.mapM Document.ofElement = .ok xs ∧ c.live = xs ∧
    Holds sure (shelf.keep place c) base place ⟨c, visible c, []⟩ d

/-- A build adds its elements to an emptied index and commits them. -/
theorem triple_rebuild {es : List Element}
    (hes : sure → ∀ e ∈ es, ∃ x, Document.ofElement e = .ok x) :
    Triple sure (Holds sure shelf base place k) (rebuild (es.map fun e => .ok (some e)))
      fun r d => match r.2 with
        | none => r.1 = es.length ∧ Rebuilt sure shelf base place es (fun _ => k.visible) d
        | some _ => ¬ sure := by
  refine (triple_onWriter (Engine.triple_enqueue _ _)).attempt.bind fun r => ?_
  rcases r with f | _
  · exact Triple.pure fun d hd => hd
  refine (triple_addElements hes).bind fun r => ?_
  rcases r with ⟨count, _ | f⟩
  · rintro d ⟨hcount, xs, hxs, hd⟩
    refine (triple_commit "build_index").attempt.bind (fun r => ?_) d hd
    rcases r with f | _
    · exact Triple.pure fun d hd => hd
    · refine Triple.pure fun d hd => ⟨by rw [hcount, Nat.zero_add], xs, _, hxs, ?_, hd⟩
      -- the clearing waits before the documents and behind whatever waited before it
      exact Collection.live_changeAll_clear k.committed k.pending xs
  · exact Triple.pure fun d hd => hd

/-- **A build.** It returns the number of elements, and their documents are all there is. -/
theorem triple_buildIndex {es : List Element}
    (hes : sure → ∀ e ∈ es, ∃ x, Document.ofElement e = .ok x) :
    Triple sure (Holds sure shelf base place k) (buildIndex (es.map fun e => .ok (some e)))
      fun n d => n = es.length ∧ Rebuilt sure shelf base place es id d := by
  refine (triple_requireWriter _).bind fun _ => Triple.get.bind fun _ => ?_
  refine (triple_emit _ _ _).bind fun _ => (triple_rebuild hes).bind fun r => ?_
  rcases r with ⟨count, _ | f⟩
  · rintro d ⟨hcount, xs, c, hxs, hc, hd⟩
    refine (triple_requestRefresh.bind fun _ => ?_) d hd
    exact (triple_emit _ _ _).bind fun _ => Triple.pure fun d hd => ⟨hcount, xs, c, hxs, hc, hd⟩
  · exact triple_writeFailed

/-- **An update.** The documents with the element's id make place for its document. -/
theorem triple_updateElement {e : Element} (he : sure → ∃ x, Document.ofElement e = .ok x) :
    Triple sure (Holds sure shelf base place k) (updateElement (some e)) fun _ d =>
      ∃ x, Document.ofElement e = .ok x ∧ ∃ c,
        c = k.committed.changeAll (k.pending ++ [.remove e.id, .add x]) ∧
          Holds sure (shelf.keep place c) base place (.settled c) d := by
  have hwrite : Triple sure (Holds sure shelf base place k) (do
      onWriter "update" (Engine.deleteId e.id)
      addElement "update" e
      commit "update") fun _ d => ∃ x, Document.ofElement e = .ok x ∧ ∃ c,
        c = k.committed.changeAll (k.pending ++ [.remove e.id, .add x]) ∧
          Holds sure (shelf.keep place c) base place ⟨c, k.visible, []⟩ d := by
    -- the removal waits before the document, so the new document stays
    refine (triple_onWriter (Engine.triple_enqueue _ _)).bind fun _ => ?_
    refine (triple_addElement he).bind fun _ => ?_
    rintro d ⟨x, hx, hd⟩
    refine (triple_commit "update").mono (fun _ d hd => ⟨x, hx, _, ?_, hd⟩) d hd
    simp [Content.commit, Content.enqueue]
  refine (triple_requireWriter _).bind fun _ => hwrite.attempt.bind fun r => ?_
  rcases r with f | _
  · exact triple_writeFailed
  · rintro d ⟨x, hx, c, hc, hd⟩
    refine (triple_requestRefresh.bind fun _ => ?_) d hd
    exact (triple_emit _ _ _).mono fun _ d hd => ⟨x, hx, c, hc, hd⟩

/-- **A deletion.** The documents with the id are gone. -/
theorem triple_deleteElement {id : String} (hid : id ≠ "") :
    Triple sure (Holds sure shelf base place k) (deleteElement (.text id)) fun _ d => ∃ c,
      c = k.committed.changeAll (k.pending ++ [.remove id]) ∧
        Holds sure (shelf.keep place c) base place (.settled c) d := by
  have hwrite : Triple sure (Holds sure shelf base place k) (do
      onWriter "delete" (Engine.deleteValue (.text id))
      commit "delete") fun _ d => ∃ c,
        c = k.committed.changeAll (k.pending ++ [.remove id]) ∧
          Holds sure (shelf.keep place c) base place ⟨c, k.visible, []⟩ d := by
    refine (triple_onWriter (Engine.triple_enqueue _ _)).bind fun _ => ?_
    exact (triple_commit "delete").mono fun _ d hd => ⟨_, rfl, hd⟩
  -- an id that is there is not refused, so the writer is asked
  have hgiven : (Json.Value.text id).isNothing = false := by simpa [Json.Value.isNothing] using hid
  rw [deleteElement, hgiven, if_neg Bool.false_ne_true]
  refine (triple_requireWriter _).bind fun _ => hwrite.attempt.bind fun r => ?_
  rcases r with f | _
  · exact triple_writeFailed
  · rintro d ⟨c, hc, hd⟩
    refine (triple_requestRefresh.bind fun _ => ?_) d hd
    exact (triple_emit _ _ _).mono fun _ d hd => ⟨c, hc, hd⟩

end Desk

end CodeCatalog.Search
