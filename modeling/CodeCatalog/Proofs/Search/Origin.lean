/-
Every document of an index was made of an element.

Nothing is ever added to an index but projections of elements. So whatever is done to the handles of
a process, and however much of it fails, the documents that wait, those that are committed and those
that are seen are all traced to elements, and so are those in the files; provided that others leave
only such documents there. `Desk.traced_action` is the step, `Process.traced_performAll` the run.

That readers are at rest between two calls is carried along, since no write can be told to end in a
known way without it.
-/
import CodeCatalog.Proofs.Search.Activity
import CodeCatalog.Proofs.Search.Session

set_option autoImplicit false

namespace CodeCatalog.Search

open Act Desk

/-! ## What is traced to elements

A document is traced if it is the projection of some element. Changes of traced documents keep a
collection so, and so do files that stand for such collections. -/

/-- The document of some element. -/
def Document.Traced (d : Document) : Prop :=
  ∃ e, d = projection e

/-- All documents are those of elements. -/
def Collection.Traced (c : Collection) : Prop :=
  ∀ d ∈ c.live, d.Traced

/-- If the change adds a document, it is that of an element. -/
def Change.Traced : Change → Prop
  | .add d => d.Traced
  | _ => True

structure Content.Traced (k : Content) : Prop where
  committed : k.committed.Traced
  visible : k.visible.Traced
  pending : ∀ x ∈ k.pending, x.Traced

/-- Whatever collection is kept somewhere in the files is of documents of elements. -/
def TracedFiles (files : Tree Artifact) : Prop :=
  ∀ place c, files.value? place = some (.collection c) → c.Traced

namespace Collection

variable {c : Collection}

theorem traced_empty : Traced {} :=
  fun _ hd => absurd hd List.not_mem_nil

/-- The documents of elements are the projections of a list of them. -/
theorem Traced.exists_elements (h : c.Traced) : ∃ es : List Element, c.live = es.map projection := by
  have hlist : ∀ ds : List Document, (∀ d ∈ ds, d.Traced) →
      ∃ es : List Element, ds = es.map projection := by
    intro ds hds
    induction ds with
    | nil => exact ⟨[], rfl⟩
    | cons d ds ih =>
      obtain ⟨e, rfl⟩ := hds d List.mem_cons_self
      obtain ⟨es, rfl⟩ := ih fun d hd => hds d (List.mem_cons_of_mem _ hd)
      exact ⟨e :: es, rfl⟩
  exact hlist c.live h

/-- A change that is traced leaves a collection so. -/
theorem Traced.change (h : c.Traced) {x : Change} (hx : x.Traced) : (c.change x).Traced := by
  intro d hd
  rcases x with _ | id | y
  · exact absurd hd List.not_mem_nil
  · exact h d (List.mem_of_mem_filter hd)
  · rcases List.mem_append.mp hd with hd | hd
    · exact h d hd
    · rw [List.mem_singleton.mp hd]
      exact hx

/-- Changes that are traced one by one leave a collection traced. -/
theorem Traced.changeAll (h : c.Traced) {xs : List Change} (hxs : ∀ x ∈ xs, x.Traced) :
    (c.changeAll xs).Traced := by
  induction xs generalizing c with
  | nil => exact h
  | cons x xs ih =>
    have hstep : (c.change x).Traced := h.change (hxs x List.mem_cons_self)
    exact ih hstep fun y hy => hxs y (List.mem_cons_of_mem _ hy)

end Collection

/-- A write adds documents of elements only. -/
theorem Write.traced_changes (w : Write) : ∀ x ∈ w.changes, x.Traced := by
  intro x hx
  -- what a write changes are projections of elements and removals; nothing else is ever enqueued
  rcases w with es | (_ | e) | id
  · rcases List.mem_cons.mp hx with rfl | hx
    · trivial
    · obtain ⟨e, -, rfl⟩ := List.mem_map.mp hx
      exact ⟨e, rfl⟩
  · exact absurd hx List.not_mem_nil
  · simp only [changes, List.mem_cons, List.not_mem_nil, or_false] at hx
    rcases hx with rfl | rfl
    · trivial
    · exact ⟨e, rfl⟩
  · rcases id with _ | b | n | r | s | items | fields
    · exact absurd hx List.not_mem_nil
    · exact absurd hx List.not_mem_nil
    · exact absurd hx List.not_mem_nil
    · exact absurd hx List.not_mem_nil
    · rw [List.mem_singleton.mp hx]
      trivial
    · exact absurd hx List.not_mem_nil
    · exact absurd hx List.not_mem_nil

namespace Content

variable {k : Content}

/-- What is left after a rollback was there before. -/
theorem Traced.rollback (h : k.Traced) : k.rollback.Traced where
  committed := h.committed
  visible := h.visible
  pending _ hx := absurd hx List.not_mem_nil

/-- What waits may be traced as well. -/
theorem Traced.draft (h : k.Traced) {xs : List Change} (hxs : ∀ x ∈ xs, x.Traced) :
    (k.draft xs).Traced where
  committed := h.committed
  visible := h.visible
  pending x hx := by
    rcases List.mem_append.mp hx with hx | hx
    · exact h.pending x hx
    · exact hxs x hx

/-- A traced collection with nothing in flight. -/
theorem traced_settled {c : Collection} (h : c.Traced) : (settled c).Traced where
  committed := h
  visible := h
  pending _ hx := absurd hx List.not_mem_nil

/-- What a commit of some more changes makes of the documents. -/
theorem Traced.changeAll (h : k.Traced) {xs : List Change} (hxs : ∀ x ∈ xs, x.Traced) :
    (k.committed.changeAll (k.pending ++ xs)).Traced :=
  h.committed.changeAll (h.draft hxs).pending

end Content

/-- No files, nothing to trace. -/
theorem tracedFiles_empty : TracedFiles {} := by
  intro place c hc
  rcases place with _ | ⟨part, parts⟩
  · exact absurd hc nofun
  · exact absurd hc nofun

namespace TracedFiles

variable {files : Tree Artifact} {place : Place}

/-- Keeping a traced collection. -/
theorem put_collection (h : TracedFiles files) {c : Collection} (hc : c.Traced) {name : String} :
    TracedFiles (files.put (place ++ [name]) (Artifact.collection c).entry) := by
  intro q c' hq
  by_cases hplace : q = place ++ [name]
  · rw [hplace, Tree.value?_put_self (append_singleton_ne_nil _ _)] at hq
    obtain rfl := Artifact.collection.inj (Option.some.inj hq)
    exact hc
  · rw [Tree.value?_put_of_ne hplace] at hq
    exact h q c' hq

/-- A file that is no state file stands for nothing. -/
theorem put_file (h : TracedFiles files) {bytes : ByteArray} {name : String} :
    TracedFiles (files.put (place ++ [name]) (.file bytes)) := by
  intro q c hq
  by_cases hplace : q = place ++ [name]
  · rw [hplace, Tree.value?_put_self (append_singleton_ne_nil _ _)] at hq
    cases hq
  · rw [Tree.value?_put_of_ne hplace] at hq
    exact h q c hq

/-- Neither does a folder. -/
theorem makeFolder (h : TracedFiles files) {folder : Place} {path : Path} {made : Tree Artifact}
    (hmade : files.makeFolder folder path = .ok (made, place)) : TracedFiles made :=
  fun q c hq => by
    obtain ⟨bytes, hentry⟩ := Tree.exists_artifact hq
    exact h q c (Tree.value?_of_get? (Tree.get?_before_makeFolders hmade hentry (by simp)))

end TracedFiles

/-! ## Desks

The invariant of a desk: the files and the engine hold nothing that is not traced. -/

namespace Desk

/-- Whatever collection a handle has to do with is of documents of elements. -/
structure Traced (d : Desk) : Prop where
  files : TracedFiles d.shelf.files
  session : ∀ s, d.index.session = some s →
    s.engine.readers.AtRest ∧ s.engine.source.content.Traced

variable {d t : Desk} {shelf : Shelf} {base : Index} {place : Place} {k : Content}

theorem traced_of_closed (hfiles : TracedFiles d.shelf.files) (h : d.index.session = none) :
    Traced d where
  files := hfiles
  session s hs := by
    rw [h] at hs
    exact absurd hs nofun

theorem Traced.files_changed (h : Traced d) {files : Tree Artifact} (hfiles : TracedFiles files) :
    Traced { d with shelf := { d.shelf with files := files } } :=
  ⟨hfiles, h.session⟩

theorem aside_traced : Aside Traced :=
  ⟨fun _ _ h => ⟨h.files, h.session⟩, fun _ _ h => ⟨h.files, h.session⟩⟩

/-- What reads show was there already. -/
theorem steady_traced : Steady Traced := by
  refine steady_of_calm (fun _ _ h => ⟨h.files, h.session⟩) fun d s hd hs => ?_
  refine ⟨fun w => w.readers.AtRest ∧ w.source.content.Traced, ⟨fun _ h => h.1, fun _ _ h => h,
    fun w now h => ?_⟩, hd.session s hs, fun w hw => ⟨hd.files, fun s' hs' => ?_⟩⟩
  · obtain ⟨hrest, hcontent⟩ := h
    exact ⟨⟨hrest.serving, hrest.unlocked⟩,
      ⟨hcontent.committed, hcontent.committed, hcontent.pending⟩⟩
  · obtain rfl : { s with engine := w } = s' := Option.some.inj hs'
    exact hw

/-- What the next search of a handle sees are projections of elements. -/
theorem Traced.exists_seen (h : Traced d) : ∃ es : List Element, d.seen.live = es.map projection := by
  rw [seen]
  rcases hs : d.index.session with _ | s
  · exact ⟨[], rfl⟩
  · obtain ⟨-, hcontent⟩ := h.session s hs
    dsimp only
    rw [Watched.seen]
    by_cases hdue : s.engine.readers.reloads false d.now
    · rw [if_pos hdue]
      exact hcontent.committed.exists_elements
    · rw [if_neg hdue]
      exact hcontent.visible.exists_elements

theorem Traced.served (h : Traced d) {s : Session} (hs : d.index.session = some s)
    (hserves : s.engine.source.Serves) : d.Served :=
  ⟨s, hs, (h.session s hs).1, hserves⟩

/-! ### Openings

An opening takes a collection over from the files or starts with an empty one. -/

/-- A fault brings nothing in that is not traced. -/
theorem keeps_traced_strike (f : Option Fault) : Keeps Traced (strike f) := by
  rcases f with _ | f
  · exact Keeps.pure ()
  · exact Keeps.ite (aside_traced.giveUp _ _) (Keeps.ite (aside_traced.giveUp _ _) (Keeps.fail f))

/-- A folder stands for nothing. -/
theorem keeps_traced_openFolder : Keeps Traced openFolder := by
  refine Keeps.bind_get fun d hd => ?_
  rcases hmade : d.shelf.files.makeFolder d.shelf.folder.parts d.index.path with f | ⟨files, place⟩
  · exact aside_traced.giveUp _ _ d hd
  · exact hd.files_changed (hd.files.makeFolder hmade)

/-- A list stands for nothing. -/
theorem keeps_traced_openList (place : Place) : Keeps Traced (openList place) := by
  refine Keeps.bind_get fun d hd => ?_
  rcases d.shelf.files.get? (place ++ [listFile]) with _ | ⟨_ | bytes | _⟩
  · exact hd.files_changed hd.files.put_file
  · exact aside_traced.giveUp _ _ d hd
  · dsimp only
    rcases listObstacle? bytes with _ | o
    · exact hd
    · exact aside_traced.giveUp _ _ d hd
  · exact aside_traced.giveUp _ _ d hd

/-- The collection that an opening finds or makes is of documents of elements too. -/
theorem outcomes_openCollection (place : Place) :
    Outcomes Traced (openCollection place) (fun c d => Traced d ∧ c.Traced) fun _ => Traced := by
  have hlist : Outcomes Traced (openList place) (fun _ => Traced) fun _ => Traced :=
    (keeps_traced_openList place).outcomes
  have hempty : Outcomes Traced (keepEmpty place) (fun c d => Traced d ∧ c.Traced)
      fun _ => Traced := by
    have hkept : Outcomes Traced (modifyShelf fun s => { s with
        files := s.files.put (place ++ [stateFile]) (Artifact.collection {}).entry })
        (fun _ => Traced) fun _ => Traced :=
      Outcomes.modify fun d hd =>
        hd.files_changed (hd.files.put_collection Collection.traced_empty)
    exact hkept.bind fun _ => Outcomes.pure fun d hd => ⟨hd, Collection.traced_empty⟩
  refine hlist.bind fun _ => Outcomes.bind_get fun d hd => ?_
  -- a new collection is empty, and one that is found is among the files
  rcases hstate : d.shelf.files.get? (place ++ [stateFile]) with _ | ⟨_ | bytes | ⟨c | _, bytes⟩⟩
  · exact hempty.of_eq hd
  · exact (aside_traced.outcomes_giveUp _ _).of_eq hd
  · dsimp only
    rcases stateObstacle? bytes with _ | o
    · exact hempty.of_eq hd
    · exact (aside_traced.outcomes_giveUp _ _).of_eq hd
  · apply Outcomes.pure
    rintro _ rfl
    exact ⟨hd, hd.files _ c (Tree.value?_of_get? hstate)⟩
  · exact (aside_traced.outcomes_giveUp _ _).of_eq hd

/-- A session that starts on documents of elements. -/
theorem traced_fresh {c : Collection} (hd : Traced d) (hc : c.Traced) (interval : Binary64) :
    Traced { d with index := { d.index with session := some {
      place := place
      engine := {
        source := { committed := c, visible := c }
        readers := { interval := interval } } } } } where
  files := hd.files
  session s hs := by
    obtain rfl := Option.some.inj hs
    exact ⟨⟨rfl, rfl⟩, Content.traced_settled hc⟩

/-- An opening takes over what is kept, and that is traced. -/
theorem keeps_traced_openStruck (faults : OpenStep → Option Fault) :
    Keeps Traced (openStruck faults) := by
  refine Keeps.get.bind fun d => Keeps.ite ?_ (Keeps.pure _)
  refine aside_traced.claim.bind fun _ => (keeps_traced_strike _).bind fun _ => ?_
  refine keeps_traced_openFolder.bind fun place => (keeps_traced_strike _).bind fun _ => ?_
  refine Outcomes.keeps ((outcomes_openCollection place).bind fun c => ?_)
  -- what was found is of elements, which the state does not tell any more
  rintro d ⟨hd, hc⟩
  refine Keeps.outcomes ?_ d hd
  refine (keeps_traced_strike _).bind fun _ => aside_traced.openWriter.bind fun _ => ?_
  refine Keeps.bind_get fun d hd => ?_
  exact aside_traced.log _ _ (traced_fresh hd hc d.index.interval)

/-! ### Writes

A write adds projections of elements, whether it is carried out or breaks off. -/

/-- An open handle is traced if its engine is. -/
theorem Open.traced {W : Watched Engine → Prop} (h : Open shelf base place W d)
    (hfiles : TracedFiles shelf.files)
    (hW : ∀ w, W w → w.readers.AtRest ∧ w.source.content.Traced) : Traced d where
  files := by
    rw [h.1]
    exact hfiles
  session s hs := hW _ (h.of_session hs).2

/-- What a write leaves is traced if the content is. -/
theorem traced_left {s : Session} {readers : Readers} (h : Left d s shelf readers k t)
    (hfiles : TracedFiles shelf.files) (hreaders : readers.AtRest) (hk : k.Traced) : Traced t := by
  refine Open.traced h hfiles fun w hw => ⟨?_, ?_⟩
  · rw [hw.readers]
    exact hreaders
  · rw [hw.content]
    exact hk

/-- However a write ends, nothing but documents of elements is there. -/
theorem keeps_traced_write (w : Write) : Keeps Traced w.action := by
  intro d hd
  by_cases hrefused : w.isPresent = false ∨ d.index.session = none
  · obtain ⟨r, hr⟩ := outcome_action_refused hrefused
    rw [hr]
    exact hd
  obtain ⟨hw, hopen⟩ := not_or.mp hrefused
  rw [Bool.not_eq_false] at hw
  obtain ⟨s, hs⟩ := Option.ne_none_iff_exists'.mp hopen
  obtain ⟨hrest, hcontent⟩ := hd.session s hs
  have hchanges := w.traced_changes
  have hbroken : ∀ cs, cs <+: w.changes → (s.engine.source.content.draft cs).Traced :=
    fun cs hcs => hcontent.draft fun x hx => hchanges x (hcs.subset hx)
  have hcommit := hcontent.changeAll hchanges
  have hending := ending_of_session hw hs hrest
  rcases hr : w.action.outcome d with ⟨r, t⟩
  rw [hr] at hending
  -- what waits is of elements, and so is what a commit makes of it
  cases hending with
  | undone _ _ hleft => exact traced_left hleft hd.files hrest hcontent.rollback
  | stuck _ _ _ hcs hleft => exact traced_left hleft hd.files hrest (hbroken _ hcs)
  | escaped _ _ _ hcs hleft => exact traced_left hleft hd.files hrest (hbroken _ hcs)
  | done _ _ hc hleft =>
    rw [hc] at hleft
    exact traced_left hleft (hd.files.put_collection hcommit) ⟨hrest.serving, hrest.unlocked⟩
      (Content.traced_settled hcommit)
  | unseen _ _ hc hleft =>
    rw [hc] at hleft
    exact traced_left hleft (hd.files.put_collection hcommit) hrest
      ⟨hcommit, hcontent.visible, fun _ hx => absurd hx List.not_mem_nil⟩

/-! ### Closings

Closing takes away what could be untraced, if anything could. -/

/-- A closed handle is traced. -/
theorem keeps_traced_closeIndex : Keeps Traced closeIndex := by
  intro d hd
  apply traced_of_closed _ (session_of_closeIndex d)
  rcases hs : d.index.session with _ | s
  · rw [outcome_closeIndex_closed hs]
    exact hd.files
  · rw [(stands_closeIndex (amid_of_session hs)).1]
    exact hd.files

end Desk

/-! ## Runs

By induction over the turns everything that a handle ever shows are projections of elements. -/

/-- If others change the files, they leave only documents of elements there. -/
def Deed.Traced : Deed → Prop
  | world shelf => TracedFiles shelf.files
  | _ => True

/-- **The step.** -/
theorem Desk.traced_action {deed : Deed} (hdeed : deed.Traced) : Keeps Desk.Traced deed.action := by
  have hsteady : Steady Desk.Traced := steady_traced
  -- only a write and an opening touch the documents; `tell` touches the script, and a new world is
  -- traced by hypothesis
  cases deed with
  | make path heap threads interval =>
    refine (Keeps.modify fun d hd => ?_).bind fun _ => Keeps.pure _
    rcases d.index.isOpen
    · exact traced_of_closed hd.files rfl
    · exact hd
  | openIndex faults => exact (keeps_traced_openStruck faults).bind fun _ => Keeps.pure _
  | closeIndex => exact keeps_traced_closeIndex.bind fun _ => Keeps.pure _
  | leave raised => exact keeps_traced_closeIndex.bind fun _ => Keeps.throw raised
  | write w => exact keeps_traced_write w
  | refresh => exact hsteady.refreshNow.bind fun _ => Keeps.pure _
  | read r => exact (hsteady.read r).bind fun _ => Keeps.pure _
  | count => exact hsteady.docCount.bind fun _ => Keeps.pure _
  | tell script =>
    refine (Keeps.modify fun d hd => ⟨hd.files, fun s' hs' => ?_⟩).bind fun _ => Keeps.pure _
    obtain ⟨s, hs, rfl⟩ := Option.map_eq_some_iff.mp hs'
    exact hd.session s hs
  | world shelf => exact fun d hd => ⟨hdeed, hd.session⟩

namespace Process

variable {ι : Type} [DecidableEq ι] {p : Process ι}

/-- Whatever collection the handles of a process have to do with is of documents of elements. -/
def Traced (p : Process ι) : Prop :=
  ∀ i now, (p.desk i now).Traced

omit [DecidableEq ι] in
theorem traced_of_closed (hfiles : TracedFiles p.shelf.files)
    (hclosed : ∀ i, (p.handle i).session = none) : p.Traced :=
  fun i _ => Desk.traced_of_closed hfiles (hclosed i)

/-- A turn leaves a process traced if its deed is. -/
theorem Traced.perform (hp : p.Traced) {t : Turn ι} (ht : t.deed.Traced) :
    (p.perform t).2.Traced := by
  have hstep : Desk.Traced (t.deed.action.outcome (p.desk t.handle t.now)).2 :=
    Desk.traced_action ht _ (hp t.handle t.now)
  intro i now
  refine ⟨hstep.files, fun s hs => ?_⟩
  -- the handle that had its turn has a new session, every other one its own
  by_cases hi : i = t.handle
  · subst hi
    have hs' : ((p.perform t).2.handle t.handle).session = some s := hs
    rw [perform_handle_self] at hs'
    exact hstep.session s hs'
  · have hs' : ((p.perform t).2.handle i).session = some s := hs
    rw [perform_handle_of_ne p hi] at hs'
    exact (hp i now).session s hs'

/-- **The run.** Whatever is done to the handles, and whatever comes of it, they have to do with
documents of elements only. -/
theorem traced_performAll (hp : p.Traced) {turns : List (Turn ι)}
    (hturns : ∀ t ∈ turns, t.deed.Traced) : (p.performAll turns).Traced := by
  induction turns generalizing p with
  | nil => exact hp
  | cons t turns ih =>
    have hstep : (p.perform t).2.Traced := hp.perform (hturns t List.mem_cons_self)
    exact ih hstep fun u hu => hturns u (List.mem_cons_of_mem _ hu)

/-- So a handle that is left open on an engine that serves readers is served, and sees documents of
elements. -/
theorem served_performAll (hfiles : TracedFiles p.shelf.files)
    (hclosed : ∀ i, (p.handle i).session = none) {turns : List (Turn ι)}
    (hturns : ∀ t ∈ turns, t.deed.Traced) {i : ι} {s : Session}
    (hs : ((p.performAll turns).handle i).session = some s) (hserves : s.engine.source.Serves)
    (now : Binary64) : ((p.performAll turns).desk i now).Served ∧
      ∃ es : List Element, ((p.performAll turns).desk i now).seen.live = es.map projection := by
  have htraced := traced_performAll (traced_of_closed hfiles hclosed) hturns i now
  exact ⟨htraced.served hs hserves, htraced.exists_seen⟩

end Process

end CodeCatalog.Search
