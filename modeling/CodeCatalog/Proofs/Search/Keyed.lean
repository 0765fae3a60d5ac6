/-
An index as a map keyed by id.

Nothing in the index keeps two documents from having one id. That there is at most one comes from the
writes: an update removes what has the id before it adds, and a build is keyed if its elements have
different ids. `Keyed` says that a list of documents is a map, by what is found under each id; this
leaves open their order alone (`Keyed.perm`).

Where the engine is told to fail nowhere, a handle stays `Settled`: its documents are committed and
seen, and nothing waits. A write then has its effect on the documents if the index takes its elements,
and no effect if it does not.
-/
import CodeCatalog.Proofs.Search.Atomicity
import CodeCatalog.Proofs.Search.Session

set_option autoImplicit false

namespace CodeCatalog.Search

open Act

/-! ## Documents keyed by id

Documents are keyed by a map if they are the projections of its elements, one for each id that a
term can be. Removing and replacing are updates of the map. -/

/-- An id that is short enough to be found. -/
def IsTerm (id : String) : Prop :=
  id.utf8ByteSize < Document.maxValueBytes

instance (id : String) : Decidable (IsTerm id) :=
  inferInstanceAs (Decidable (id.utf8ByteSize < Document.maxValueBytes))

instance (e : Element) : Decidable (Indexable e) :=
  decidable_of_iff (e.payload.isForeign = false ∧ fitsLong e.location.startLine = true)
    ⟨fun h => ⟨h.1, h.2⟩, fun h => ⟨h.own, h.line⟩⟩

/-- The document of an element has its id. -/
theorem hasId_projection {id : String} (hid : IsTerm id) (e : Element) :
    Collection.hasId id (projection e) = decide (e.id = id) := by
  rw [Bool.eq_iff_iff, Collection.hasId, List.contains_iff_mem, mem_terms_iff (by decide) hid,
    values_id, List.mem_singleton, Stored.text.injEq, decide_eq_true_eq, eq_comm]

/-- **Documents that are a map**: each is that of an element, and under each id there is the one that
the map has there. -/
structure Keyed (m : String → Option Document) (ds : List Document) : Prop where
  projected : ∀ d ∈ ds, ∃ e : Element, d = projection e ∧ IsTerm e.id
  filtered : ∀ id, IsTerm id → ds.filter (Collection.hasId id) = (m id).toList

namespace Keyed

variable {m m' : String → Option Document} {ds ds' : List Document} {id : String} {e : Element}

theorem nil : Keyed (fun _ => none) [] :=
  ⟨fun _ hd => absurd hd List.not_mem_nil, fun _ _ => rfl⟩

theorem congr (h : Keyed m ds) (hm : ∀ id, IsTerm id → m id = m' id) : Keyed m' ds where
  projected := h.projected
  filtered id hid := by rw [h.filtered id hid, hm id hid]

/-- Every document is found under an id. -/
theorem exists_id (h : Keyed m ds) {d : Document} (hd : d ∈ ds) :
    ∃ id, IsTerm id ∧ m id = some d := by
  obtain ⟨e, rfl, hid⟩ := h.projected d hd
  have hmem : projection e ∈ ds.filter (Collection.hasId e.id) :=
    List.mem_filter.mpr ⟨hd, by rw [hasId_projection hid, decide_eq_true rfl]⟩
  rw [h.filtered e.id hid, Option.mem_toList] at hmem
  exact ⟨e.id, hid, hmem⟩

/-- The documents that have an id, once those that have another one are gone. -/
theorem filter_filter (h : Keyed m ds) (hid : IsTerm id) {other : String} (hother : IsTerm other) :
    (ds.filter (!Collection.hasId id ·)).filter (Collection.hasId other) =
      if other = id then [] else (m other).toList := by
  rw [List.filter_filter, ← h.filtered other hother]
  -- the removed id finds nothing, any other finds what it found before
  by_cases heq : other = id
  · rw [if_pos heq, heq, List.filter_eq_nil_iff]
    intro d _
    simp
  · rw [if_neg heq]
    refine List.filter_congr fun d hd => ?_
    obtain ⟨e, rfl, -⟩ := h.projected d hd
    rw [hasId_projection hother, hasId_projection hid]
    by_cases he : e.id = other
    · simp [he, heq]
    · simp [he]

/-- Without the documents of one id the others are keyed as before. -/
theorem remove (h : Keyed m ds) (hid : IsTerm id) :
    Keyed (Function.update m id none) (ds.filter (!Collection.hasId id ·)) where
  projected d hd := h.projected d (List.mem_of_mem_filter hd)
  filtered other hother := by
    rw [h.filter_filter hid hother, Function.update_apply]
    by_cases heq : other = id
    · rw [if_pos heq, if_pos heq]
      rfl
    · rw [if_neg heq, if_neg heq]

/-- A document that takes the place of those with its id is the one with the id. -/
theorem replace (h : Keyed m ds) (hid : IsTerm e.id) :
    Keyed (Function.update m e.id (some (projection e)))
      (ds.filter (!Collection.hasId e.id ·) ++ [projection e]) where
  projected d hd := by
    rcases List.mem_append.mp hd with hd | hd
    · exact h.projected d (List.mem_of_mem_filter hd)
    · exact ⟨e, List.mem_singleton.mp hd, hid⟩
  filtered other hother := by
    rw [List.filter_append, h.filter_filter hid hother, List.filter_singleton,
      hasId_projection hother, Function.update_apply]
    by_cases heq : other = e.id
    · simp [heq]
    · simp [heq, Ne.symm heq]

/-- The documents of the latest elements are a map to the last element with each id. -/
theorem latest {es : List Element} (hes : ∀ e ∈ es, IsTerm e.id) :
    Keyed (fun id => (Store.current? es id).map projection) ((Store.latest es).map projection) where
  projected d hd := by
    obtain ⟨e, he, rfl⟩ := List.mem_map.mp hd
    exact ⟨e, rfl, hes e (Store.mem_of_mem_latest he)⟩
  filtered id hid := by
    have hfilter : Collection.hasId id ∘ projection = fun e => decide (e.id = id) :=
      funext (hasId_projection hid)
    rw [List.filter_map, hfilter, Store.filter_latest]
    cases Store.current? es id <;> rfl

/-- **A map leaves open the order of the documents alone.** -/
theorem perm (h : Keyed m ds) (h' : Keyed m ds') : ds.Perm ds' := by
  -- a document comes as often as it comes under its id
  have hcount : ∀ {ds}, Keyed m ds → ∀ e, IsTerm e.id →
      ds.count (projection e) = ((m e.id).toList).count (projection e) := by
    intro ds h e hid
    have hfound : Collection.hasId e.id (projection e) = true := by
      rw [hasId_projection hid, decide_eq_true rfl]
    rw [← h.filtered e.id hid, List.count_filter hfound]
  have habsent : ∀ {ds}, Keyed m ds → ∀ d, (∀ e : Element, d = projection e → ¬ IsTerm e.id) →
      ds.count d = 0 := by
    intro ds h d hd
    rw [List.count_eq_zero]
    intro hmem
    obtain ⟨e, he, hid⟩ := h.projected d hmem
    exact hd e he hid
  rw [List.perm_iff_count]
  intro d
  by_cases hd : ∃ e : Element, d = projection e ∧ IsTerm e.id
  · obtain ⟨e, rfl, hid⟩ := hd
    rw [hcount h e hid, hcount h' e hid]
  · have hnone : ∀ e : Element, d = projection e → ¬ IsTerm e.id :=
      fun e he hid => hd ⟨e, he, hid⟩
    rw [habsent h d hnone, habsent h' d hnone]

end Keyed

/-! ## Writes that nothing hinders

With a willing engine and nothing waiting, a write that is accepted does what it says and leaves the
index settled again. -/

namespace Desk

variable {c : Collection} {d : Desk} {w : Write}

/-- The handle is open on documents that are committed and seen, nothing waits, and the engine has
been told to fail nowhere. -/
def Settled (c : Collection) (d : Desk) : Prop :=
  ∃ s, d.index.session = some s ∧ Watched.Has True (.settled c) s.engine

theorem Settled.seen (h : Settled c d) : d.seen = c := by
  obtain ⟨s, hs, hW⟩ := h
  rw [seen_of_session hs, hW.seen]

/-- An open handle with nothing in flight is settled. -/
theorem settled_of_open {shelf : Shelf} {base : Index} {place : Place}
    (h : Holds True shelf base place (.settled c) d) : Settled c d := by
  obtain ⟨-, w, hw, hW⟩ := h
  exact ⟨⟨w, place⟩, by rw [hw], hW⟩

/-- The desk of a settled handle, with as much known of its engine as is sure. -/
theorem Settled.holds (h : Settled c d) (sure : Prop) :
    ∃ place, Holds sure d.shelf d.index place (.settled c) d := by
  obtain ⟨s, hs, hrest, hcontent, hwilling⟩ := h
  refine ⟨s.place, rfl, s.engine, ?_, hrest, hcontent, fun _ => hwilling trivial⟩
  rw [← hs]

/-- Reading leaves an index settled. -/
theorem steady_settled : Steady (Settled c) := by
  refine steady_of_calm (fun _ _ h => h) fun d s hd hs => ?_
  obtain ⟨s', hs', hW⟩ := hd
  obtain rfl := Option.some.inj (hs'.symm.trans hs)
  exact ⟨_, Watched.calm_settled c, hW, fun w hw => ⟨_, rfl, hw⟩⟩

/-- An open handle has an engine that has been told to fail nowhere. -/
def Unhindered (d : Desk) : Prop :=
  ∀ s, d.index.session = some s → s.engine.readers.AtRest ∧ s.engine.source.Willing

/-- Reading hinders nothing. -/
theorem calm_unhindered :
    Watched.Calm fun w : Watched Engine => w.readers.AtRest ∧ w.source.Willing where
  rest _ h := h.1
  spend _ call h := ⟨h.1, h.2.spend call⟩
  reload _ _ h := ⟨⟨h.1.serving, h.1.unlocked⟩, h.2.script, h.2.alive⟩

/-- What keeps an engine willing hinders nothing. -/
theorem keeps_unhindered {α : Type} {absent : Failure} {a : Act (Watched Engine) α}
    (ha : Keeps (fun w => w.readers.AtRest ∧ w.source.Willing) a) :
    Keeps Unhindered (onEngine absent a) := by
  refine keeps_onEngine_of fun d s hd hs => ⟨_, ha, hd s hs, fun w hw s' hs' => ?_⟩
  obtain rfl := Option.some.inj hs'
  exact hw

/-- A call that changes the content of an engine keeps it willing. -/
theorem keeps_willing_use {call : Call} {change : Engine → Engine}
    (hchange : ∀ e : Engine, e.Willing → (change e).Willing) :
    Keeps (fun w : Watched Engine => w.readers.AtRest ∧ w.source.Willing)
      (Watched.onSource (Engine.use call change)) := by
  intro w hw
  have hsource : Keeps Engine.Willing (Engine.use call change) :=
    Engine.keeps_use hchange fun e he => he.spend call
  exact ⟨hw.1, hsource w.source hw.2⟩

/-- Writing hinders nothing either. -/
theorem sturdy_unhindered : Sturdy Unhindered where
  log _ _ h := h
  call operation call change hchange := by
    refine keeps_unhindered (keeps_willing_use fun e he => ?_)
    obtain ⟨pending, hpending⟩ := hchange e
    rw [hpending]
    exact ⟨he.script, he.alive⟩
  commit operation := by
    have hcommit : Keeps Unhindered (onWriter operation Engine.commit) :=
      keeps_unhindered (keeps_willing_use fun e he => ⟨he.script, he.alive⟩)
    -- what is committed is put into the folder, which is no part of the handle
    refine hcommit.bind fun _ => Keeps.modify fun d hd => ?_
    rcases hs : d.index.session with _ | s
    · exact hd
    · exact hd
  maybeRefresh absent force now :=
    keeps_unhindered (Watched.keeps_maybeRefresh calm_unhindered)

/-- So no write does, however it ends. -/
theorem keeps_unhindered_write (w : Write) : Keeps Unhindered w.action := by
  rcases w with es | e | id
  · exact (sturdy_unhindered.buildIndex es).bind fun _ => Keeps.pure _
  · exact (sturdy_unhindered.updateElement e).bind fun _ => Keeps.pure _
  · exact (sturdy_unhindered.deleteElement id).bind fun _ => Keeps.pure _

/-- What a write leaves with nothing in flight is settled. -/
theorem settled_of_left {s : Session} {shelf : Shelf} {readers : Readers} {t : Desk}
    (hleft : Left d s shelf readers (.settled c) t) (hreaders : readers.AtRest)
    (ht : Unhindered t) : Settled c t := by
  obtain ⟨-, w, hindex, hleft⟩ := hleft
  have hs : t.index.session = some ⟨w, s.place⟩ := by rw [hindex]
  refine ⟨_, hs, ?_, hleft.content, fun _ => (ht _ hs).2⟩
  rw [hleft.readers]
  exact hreaders

/-- **A write that returns has its effect, and any other has none.** -/
theorem Settled.write (h : Settled c d) (w : Write) :
    ∃ c', Settled c' (w.action.outcome d).2 ∧
      c'.live = if w.returns d then w.effect c.live else c.live := by
  by_cases hw : w.isPresent = true
  · obtain ⟨s, hs, hrest, hcontent, hwilling⟩ := h
    have hunhindered : Unhindered (w.action.outcome d).2 := by
      refine keeps_unhindered_write w d fun s' hs' => ?_
      obtain rfl := Option.some.inj (hs.symm.trans hs')
      exact ⟨hrest, hwilling trivial⟩
    have hpending : s.engine.source.pending = [] := congrArg Content.pending hcontent
    have hcommitted : s.engine.source.committed = c := congrArg Content.committed hcontent
    have hending := ending_of_session hw hs hrest
    unfold Write.returns
    rcases hr : w.action.outcome d with ⟨r, t⟩
    rw [hr] at hending hunhindered
    rcases hending.of_willing (hwilling trivial) with ⟨e, rfl, hleft⟩ | ⟨a, c', now, rfl, hc, hleft⟩
    · rw [hcontent] at hleft
      exact ⟨c, settled_of_left hleft hrest hunhindered, rfl⟩
    · refine ⟨c', settled_of_left hleft ⟨hrest.serving, hrest.unlocked⟩ hunhindered, ?_⟩
      rw [hc, hpending, hcommitted, List.nil_append]
      exact w.live_changeAll_changes c
  · -- a write without its argument is refused
    rw [Bool.not_eq_true] at hw
    obtain ⟨r, hr⟩ := outcome_action_refused (d := d) (.inl hw)
    refine ⟨c, ?_, ?_⟩
    · rw [hr]
      exact h
    · rw [Write.returns, hr]
      rfl

/-! ### Builds, updates and deletions

The three of them, as effects on the documents. -/

theorem isOk_map {ε α β : Type} (r : Except ε α) (f : α → β) : (r.map f).isOk = r.isOk := by
  cases r <;> rfl

/-- A build returns if the index takes all of its elements, whose documents are then all there is. -/
theorem Settled.build (h : Settled c d) (es : List Element) :
    ∃ c', Settled c' ((buildIndex (es.map fun e => .ok (some e))).outcome d).2 ∧
      c'.live = if ∀ e ∈ es, Indexable e then es.map projection else c.live := by
  obtain ⟨place, hd⟩ := h.holds (∀ e ∈ es, Indexable e)
  have hbuild := triple_buildIndex (fun hes e he => ⟨_, ofElement_projection (hes e he)⟩) d hd
  obtain ⟨c', hc', hlive⟩ := h.write (.build (es.map fun e => .ok (some e)))
  rw [Write.action, outcome_bind_pure] at hc'
  refine ⟨c', hc', ?_⟩
  rw [hlive, Write.returns, Write.action, outcome_bind_pure, isOk_map, Write.effect,
    Store.added_map]
  -- a build is refused if one of its elements cannot be a document, and then the documents stay
  rcases hr : (buildIndex (es.map fun e => .ok (some e))).outcome d with ⟨f | n, t⟩ <;>
    rw [hr] at hbuild
  · rw [if_neg hbuild]
    rfl
  · obtain ⟨-, xs, _, hxs, -⟩ := hbuild
    rw [if_pos (indexable_of_mapM hxs)]
    rfl

/-- An update returns if the index takes the element. -/
theorem Settled.update (h : Settled c d) (e : Element) :
    (((updateElement (some e)).outcome d).1 = .ok () ↔ Indexable e) ∧
      ∃ c', Settled c' ((updateElement (some e)).outcome d).2 ∧
        c'.live = if Indexable e then (Write.update (some e)).effect c.live else c.live := by
  obtain ⟨place, hd⟩ := h.holds (Indexable e)
  have hupdate := triple_updateElement (fun he => ⟨_, ofElement_projection he⟩) d hd
  obtain ⟨c', hc', hlive⟩ := h.write (.update (some e))
  rw [Write.action, outcome_bind_pure] at hc'
  rw [Write.returns, Write.action, outcome_bind_pure, isOk_map] at hlive
  -- the same for one element: it is refused exactly if it cannot be a document
  rcases hr : (updateElement (some e)).outcome d with ⟨f | _, t⟩ <;>
    rw [hr] at hupdate hc' hlive
  · refine ⟨iff_of_false (by rintro ⟨⟩) hupdate, c', hc', ?_⟩
    rw [hlive, if_neg hupdate]
    rfl
  · obtain ⟨x, hx, -⟩ := hupdate
    refine ⟨iff_of_true rfl (indexable_of_ok hx), c', hc', ?_⟩
    rw [hlive, if_pos (indexable_of_ok hx)]
    rfl

/-- A deletion of an id that is not empty returns, whether a document has the id or not. -/
theorem Settled.delete (h : Settled c d) {id : String} (hid : id ≠ "") :
    ((deleteElement (.text id)).outcome d).1 = .ok () ∧
      ∃ c', Settled c' ((deleteElement (.text id)).outcome d).2 ∧
        c'.live = (Write.delete (.text id)).effect c.live := by
  obtain ⟨place, hd⟩ := h.holds True
  obtain ⟨_, t, hr, -⟩ := (triple_deleteElement hid).exists_ok hd
  obtain ⟨c', hc', hlive⟩ := h.write (.delete (.text id))
  rw [Write.action, outcome_bind_pure] at hc'
  rw [Write.returns, Write.action, outcome_bind_pure, hr] at hlive
  exact ⟨by rw [hr], c', hc', hlive⟩

end Desk

end CodeCatalog.Search
