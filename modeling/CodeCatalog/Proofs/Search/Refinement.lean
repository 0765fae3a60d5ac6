/-
The handles of a process refine one collection of documents.

A process has any number of handles on the index of one path. What they amount to is an `Ideal`: a
collection of documents, and at most one handle that holds it. A build by the holder replaces the
collection, an update and a deletion change it, and everything else leaves it alone, so that it does
not matter who opens and closes the index in between, nor when.

`Refines` ties the two together. While nobody holds the index, an opening of it finds the documents;
while someone does, they are the last commit, readers see that commit, nothing waits, and it is also
what the folder keeps. Each request keeps this (`Refines.step`), and so does every run.
-/
import CodeCatalog.Proofs.Search.Finding
import CodeCatalog.Proofs.Search.Reading
import CodeCatalog.Proofs.Search.Struck
import Mathlib.Data.Multiset.Filter
import Mathlib.Logic.Function.Basic

set_option autoImplicit false

namespace CodeCatalog.Search

open Act Desk

/-! ## Requests

What a caller may ask of a handle, each with the answer that is right for an ideal collection. -/

/-- What is asked of a handle. -/
inductive Request
  | openIndex
  | closeIndex
  | build (es : List Element)
  | update (e : Element)
  | delete (id : String)
  | refresh
  | read (r : Desk.Read)
  | count

namespace Request

/-- The action of a request. What it returns or raises goes to the caller. -/
def action : Request → IndexAct Unit
  | openIndex => Desk.openIndex
  | closeIndex => Desk.closeIndex
  | build es => discard (Desk.buildIndex (es.map fun e => .ok (some e)))
  | update e => Desk.updateElement (some e)
  | delete id => Desk.deleteElement (.text id)
  | refresh => Desk.refresh
  | read r => discard (Desk.read r)
  | count => discard Desk.docCount

/-- The elements of a request are taken by the index, and its ids are terms. -/
def Sound : Request → Prop
  | build es => ∀ e ∈ es, Indexable e
  | update e => Indexable e ∧ e.id.utf8ByteSize < Document.maxValueBytes
  | delete id => id ≠ "" ∧ id.utf8ByteSize < Document.maxValueBytes
  | _ => True

end Request

/-- A request of one of the handles at some time. -/
structure Step (ι : Type) where
  handle : ι
  now : Binary64
  request : Request

/-! ## Processes

Several handles of one path share a shelf. A handle acts at its desk and leaves it to the others. -/

/-- Handles, with what they share. -/
structure Process (ι : Type) where
  shelf : Shelf
  handle : ι → Index
  log : List Log.Event := []

namespace Process

variable {ι : Type} [DecidableEq ι]

/-- One of the handles at work. -/
def desk (p : Process ι) (i : ι) (now : Binary64) : Desk :=
  { shelf := p.shelf, index := p.handle i, now := now, log := p.log }

/-- The process that a desk of one of its handles leaves. -/
def leave (p : Process ι) (i : ι) (d : Desk) : Process ι where
  shelf := d.shelf
  handle := Function.update p.handle i d.index
  log := d.log

/-- The process after a step. -/
def step (p : Process ι) (s : Step ι) : Process ι :=
  p.leave s.handle (s.request.action.outcome (p.desk s.handle s.now)).2

/-- The process after steps. -/
def run (p : Process ι) (steps : List (Step ι)) : Process ι :=
  steps.foldl step p

/-- **All handles are on one path and closed, and whichever is opened shows these documents.** -/
structure Ready (p : Process ι) (path : Path) (ds : List Document) : Prop where
  handles : ∀ i, ∃ heap threads interval,
    p.handle i = Index.new p.shelf.folder path heap threads interval
  opens : ∀ i now, ∃ d s, Desk.openIndex.outcome (p.desk i now) = (.ok (), d) ∧
    d.index.session = some s ∧ s.engine.source.committed.live = ds

end Process

/-! ## The ideal collection

A collection with a holder or none. Only the holder may change it, and it forgets nothing. -/

/-- A collection of documents, and who holds it. -/
structure Ideal (ι : Type) where
  holder : Option ι
  documents : Multiset Document

namespace Ideal

variable {ι : Type} [DecidableEq ι]

/-- The documents without those that have an id. -/
def without (ds : Multiset Document) (id : String) : Multiset Document :=
  ds.filter fun d => id ∉ d.texts .id

/-- The collection after a request of its holder. -/
def change (ds : Multiset Document) : Request → Multiset Document
  | .build es => (es.map projection : List Document)
  | .update e => without ds e.id + {projection e}
  | .delete id => without ds id
  | _ => ds

/-- The collection and its holder after a step. Only the holder changes the collection, and nobody
opens what another one holds. -/
def step (m : Ideal ι) (s : Step ι) : Ideal ι :=
  match m.holder with
  | none =>
    match s.request with
    | .openIndex => { m with holder := some s.handle }
    | _ => m
  | some i =>
    if i = s.handle then
      match s.request with
      | .closeIndex => { m with holder := none }
      | r => { m with documents := change m.documents r }
    else m

/-- The collection and its holder after steps. -/
def run (m : Ideal ι) (steps : List (Step ι)) : Ideal ι :=
  steps.foldl step m

end Ideal

/-! ## Changes of the documents

The documents of an id are removed before its new one is added, so an id stands once. -/

/-- A document has an id just if that stands in its field. -/
theorem hasId_iff {id : String} (h : id.utf8ByteSize < Document.maxValueBytes) (d : Document) :
    Collection.hasId id d = true ↔ id ∈ d.texts .id := by
  rw [Collection.hasId, List.contains_iff_mem]
  show id ∈ (d.texts .id).filter _ ↔ _
  -- a text is a term unless it is too long
  rw [List.mem_filter, decide_eq_true_eq]
  exact and_iff_left h

/-- A removal takes away the documents that have the id. -/
theorem live_remove {id : String} (h : id.utf8ByteSize < Document.maxValueBytes) (c : Collection) :
    ((c.change (.remove id)).live : Multiset Document) = Ideal.without c.live id := by
  have hfilter : (c.live.filter fun d => !Collection.hasId id d) =
      c.live.filter fun d => decide (id ∉ d.texts .id) := by
    refine List.filter_congr fun d _ => ?_
    rw [Bool.eq_iff_iff, Bool.not_eq_true', decide_eq_true_eq, ← hasId_iff h, Bool.not_eq_true]
  rw [Ideal.without, Multiset.filter_coe]
  exact congrArg _ hfilter

/-! ## Closed handles

A closed handle refuses everything but an opening, and an opening of a claimed path is refused as
well. -/

section Closed

variable {shelf : Shelf} {base : Index} (hclosed : base.session = none)

include hclosed

/-- A write needs an open index. -/
theorem keeps_write_closed {α : Type} {operation : String} {f : Unit → IndexAct α} :
    Keeps (Stands shelf base) (requireWriter operation >>= f) := by
  intro d hd
  have hsession : d.index.session = none := by rw [hd.2, hclosed]
  rw [outcome_bind_of_error (outcome_requireWriter_closed hsession operation)]
  exact hd

/-- A handle that is closed is closed still, whatever is asked of it but to be opened. -/
theorem keeps_action_closed {r : Request} (hr : r.Sound) (hopen : r ≠ .openIndex) :
    Keeps (Stands shelf base) r.action := by
  have hsteady : Steady (Stands shelf base) := steady_closed hclosed
  -- only opening can change a closed handle; writing is refused, and reading answers without a
  -- session
  rcases r with _ | _ | es | e | id | _ | r | _
  · exact absurd rfl hopen
  · intro d hd
    have hsession : d.index.session = none := by rw [hd.2, hclosed]
    rw [Request.action, outcome_closeIndex_closed hsession]
    exact hd
  · exact (keeps_write_closed hclosed).discard
  · exact keeps_write_closed hclosed
  · have hgiven : (Json.Value.text id).isNothing = false := by
      simpa [Json.Value.isNothing] using hr.1
    rw [Request.action, deleteElement, hgiven, if_neg Bool.false_ne_true]
    exact keeps_write_closed hclosed
  · exact hsteady.refreshNow
  · exact (hsteady.read r).discard
  · exact hsteady.docCount.discard

/-- A path that is claimed is not opened. -/
theorem keeps_openIndex_claimed (hclaimed : base.key ∈ shelf.claimed) :
    Keeps (Stands shelf base) Desk.openIndex := by
  rintro d ⟨rfl, rfl⟩
  rw [← openStruck_none, outcome_openStruck_claimed _ hclosed hclaimed]
  exact ⟨rfl, rfl⟩

end Closed

/-! ## The relation

`Refines` relates handles and shelf to the ideal: the folder keeps its collection, its holder is the
one handle that is open, and has nothing waiting. -/

/-- **A process refines an ideal.** Its handles are all on one path, at most one of them is open,
and what that one shows, or what an opening would show, are the documents. -/
structure Refines {ι : Type} (p : Process ι) (m : Ideal ι) (path : Path) (key : String)
    (place : Place) (c : Collection) : Prop where
  paths : ∀ i, (p.handle i).path = path ∧ (p.handle i).key = key
  writers : ∀ i, TakesWriter p.shelf (p.handle i) place
  documents : (c.live : Multiset Document) = m.documents
  closed : ∀ i, m.holder ≠ some i → (p.handle i).session = none
  free : m.holder = none → ∀ i, ∃ files, Opens p.shelf (p.handle i) place c files
  held : ∀ i, m.holder = some i → key ∈ p.shelf.claimed ∧
    Kept p.shelf.files p.shelf.folder path place c ∧
      ∀ now, Holds True p.shelf (p.handle i) place (.settled c) (p.desk i now)

section Refines

variable {ι : Type} [DecidableEq ι] {p : Process ι} {m : Ideal ι} {path : Path} {key : String}
  {place : Place} {c c' : Collection} {i : ι} {d : Desk} {shelf : Shelf}

omit [DecidableEq ι] in
theorem stands_desk (p : Process ι) (i : ι) (now : Binary64) :
    Stands p.shelf (p.handle i) (p.desk i now) :=
  ⟨rfl, rfl⟩

theorem leave_handle_self (p : Process ι) (i : ι) (d : Desk) : (p.leave i d).handle i = d.index :=
  Function.update_self ..

theorem leave_handle_of_ne {j : ι} (h : j ≠ i) (p : Process ι) (d : Desk) :
    (p.leave i d).handle j = p.handle j :=
  Function.update_of_ne h ..

omit [DecidableEq ι] in
/-- Whether there is memory for a writer is a matter of the settings and of the machine. -/
theorem TakesWriter.of_eq {i i' : Index} {shelf' : Shelf} (h : TakesWriter shelf i place)
    (hheld : shelf'.held = shelf.held) (hprocessors : shelf'.processors = shelf.processors)
    (hheap : i'.heap = i.heap) (hthreads : i'.threads = i.threads) :
    TakesWriter shelf' i' place := by
  obtain ⟨heap, threads, h₁, h₂, h₃, h₄⟩ := h
  refine ⟨heap, threads, ?_, ?_, ?_, ?_⟩
  · rw [hheap]
    exact h₁
  · rw [hthreads]
    exact h₂
  · rw [hheld]
    exact h₃
  · rw [hprocessors]
    exact h₄

/-- What a desk leaves that changed nothing of its handle but the session, and nothing of the shelf
that a writer needs. -/
structure Leaves (p : Process ι) (i : ι) (d : Desk) : Prop where
  index : ∃ s, d.index = { p.handle i with session := s }
  held : d.shelf.held = p.shelf.held
  processors : d.shelf.processors = p.shelf.processors
  folder : d.shelf.folder = p.shelf.folder

/-- What a handle leaves is still one on the same path. -/
theorem Leaves.paths (hd : Leaves p i d) (h : Refines p m path key place c) (j : ι) :
    ((p.leave i d).handle j).path = path ∧ ((p.leave i d).handle j).key = key := by
  by_cases hj : j = i
  · obtain ⟨s, hs⟩ := hd.index
    rw [hj, leave_handle_self, hs]
    exact h.paths i
  · rw [leave_handle_of_ne hj]
    exact h.paths j

/-- It could still have a writer. -/
theorem Leaves.writers (hd : Leaves p i d) (h : Refines p m path key place c) (j : ι) :
    TakesWriter (p.leave i d).shelf ((p.leave i d).handle j) place := by
  by_cases hj : j = i
  · obtain ⟨s, hs⟩ := hd.index
    rw [hj, leave_handle_self, hs]
    exact (h.writers i).of_eq hd.held hd.processors rfl rfl
  · rw [leave_handle_of_ne hj]
    exact (h.writers j).of_eq hd.held hd.processors rfl rfl

/-- A desk that left handle and shelf as they were changes nothing. -/
theorem Refines.leave_stands (h : Refines p m path key place c)
    (hd : Stands p.shelf (p.handle i) d) : Refines (p.leave i d) m path key place c := by
  -- a handle that is put back as it was leaves all handles as they were
  have hhandle : (p.leave i d).handle = p.handle := by
    show Function.update p.handle i d.index = p.handle
    rw [hd.2, Function.update_eq_self]
  have hshelf : (p.leave i d).shelf = p.shelf := hd.1
  refine ⟨?_, ?_, h.documents, ?_, ?_, ?_⟩
  · rw [hhandle]
    exact h.paths
  · rw [hhandle, hshelf]
    exact h.writers
  · rw [hhandle]
    exact h.closed
  · rw [hhandle, hshelf]
    exact h.free
  · intro j hj
    obtain ⟨hclaimed, hkept, hholds⟩ := h.held j hj
    rw [hshelf, hhandle]
    refine ⟨hclaimed, hkept, fun now => ?_⟩
    obtain ⟨-, w, hw, hW⟩ := hholds now
    refine ⟨hshelf, w, ?_, hW⟩
    show (p.leave i d).handle j = _
    rw [hhandle]
    exact hw

/-- A desk that left the index open makes its handle the holder of what it shows. -/
theorem Refines.leave_holds (h : Refines p m path key place c) (ds : Multiset Document)
    (hd : Holds True d.shelf (p.handle i) place (.settled c') d) (hleaves : Leaves p i d)
    (hothers : ∀ j, j ≠ i → (p.handle j).session = none) (hclaimed : key ∈ d.shelf.claimed)
    (hkept : Kept d.shelf.files d.shelf.folder path place c') (hds : (c'.live : Multiset _) = ds) :
    Refines (p.leave i d) ⟨some i, ds⟩ path key place c' where
  paths := hleaves.paths h
  writers := hleaves.writers h
  documents := hds
  closed j hj := by
    have hne : j ≠ i := fun heq => hj (congrArg some heq.symm)
    rw [leave_handle_of_ne hne]
    exact hothers j hne
  free hnone := absurd hnone nofun
  -- the handle that wrote is the one that holds the index now; its path was claimed before and
  -- stays so
  held j hj := by
    obtain rfl : i = j := Option.some.inj hj
    refine ⟨hclaimed, hkept, fun now => ?_⟩
    obtain ⟨-, w, hw, hW⟩ := hd
    refine ⟨rfl, w, ?_, hW⟩
    show (p.leave i d).handle i = _
    rw [leave_handle_self, hw]

/-- A desk that left the index closed leaves it for everyone to open. -/
theorem Refines.leave_closed (h : Refines p m path key place c)
    (hkept : Kept d.shelf.files p.shelf.folder path place c) (hleaves : Leaves p i d)
    (hothers : ∀ j, j ≠ i → (p.handle j).session = none) (hd : d.index.session = none)
    (hfree : key ∉ d.shelf.claimed) :
    Refines (p.leave i d) { m with holder := none } path key place c where
  paths := hleaves.paths h
  writers := hleaves.writers h
  documents := h.documents
  closed j _ := by
    by_cases hj : j = i
    · rw [hj, leave_handle_self]
      exact hd
    · rw [leave_handle_of_ne hj]
      exact hothers j hj
  free _ j := by
    obtain ⟨hpath, hkey⟩ := hleaves.paths h j
    -- the path is free again, and any handle finds the same collection there
    have hfound : Opens d.shelf ((p.leave i d).handle j) place c d.shelf.files := by
      refine Kept.opens ?_ ?_ (hleaves.writers h j)
      · rw [hpath, hleaves.folder]
        exact hkept
      · rw [hkey]
        exact hfree
    exact ⟨_, hfound⟩
  held j hj := absurd hj nofun

/-! ## Steps

One request is one step of the ideal, with the same answer. By induction this is so of every run
from a shelf that is ready. -/

omit [DecidableEq ι] in
/-- A handle that holds a content leaves its desk. -/
theorem Leaves.of_holds {k : Content} (hd : Holds True shelf (p.handle i) place k d)
    (hheld : shelf.held = p.shelf.held) (hprocessors : shelf.processors = p.shelf.processors)
    (hfolder : shelf.folder = p.shelf.folder) : Leaves p i d := by
  obtain ⟨rfl, w, hw, -⟩ := hd
  exact ⟨⟨_, hw⟩, hheld, hprocessors, hfolder⟩

omit [DecidableEq ι] in
theorem Refines.others (h : Refines p m path key place c) (hm : m.holder = some i) :
    ∀ j, j ≠ i → (p.handle j).session = none :=
  fun j hj => h.closed j fun heq => hj (Option.some.inj (heq.symm.trans hm))

/-- The holder did what leaves the documents alone. -/
theorem Refines.leave_same (h : Refines p m path key place c) (hm : m.holder = some i)
    (hd : Holds True p.shelf (p.handle i) place (.settled c) d) :
    Refines (p.leave i d) m path key place c := by
  obtain ⟨hclaimed, hkept, -⟩ := h.held i hm
  have hshelf : d.shelf = p.shelf := hd.1
  have hnew := h.leave_holds m.documents (hshelf ▸ hd) (.of_holds hd rfl rfl rfl)
    (h.others hm) (hshelf ▸ hclaimed) (hshelf ▸ hkept) h.documents
  rw [← hm] at hnew
  exact hnew

/-- The holder wrote. -/
theorem Refines.leave_written (h : Refines p m path key place c) (hm : m.holder = some i)
    (hd : Holds True (p.shelf.keep place c') (p.handle i) place (.settled c') d) :
    Refines (p.leave i d) { m with documents := c'.live } path key place c' := by
  obtain ⟨hclaimed, hkept, -⟩ := h.held i hm
  have hshelf : d.shelf = p.shelf.keep place c' := hd.1
  have hnew := h.leave_holds c'.live (hshelf ▸ hd) (.of_holds hd rfl rfl rfl)
    (h.others hm) (hshelf ▸ hclaimed) (hshelf ▸ hkept.keep c') rfl
  rw [← hm] at hnew
  exact hnew

/-- An opening by anyone, of an index that nobody holds. -/
theorem Refines.step_open (h : Refines p m path key place c) (hm : m.holder = none)
    (now : Binary64) :
    Refines (p.leave i (Desk.openIndex.outcome (p.desk i now)).2) { m with holder := some i } path
      key place c := by
  obtain ⟨files, hopens⟩ := h.free hm i
  have hclosed : ∀ j, (p.handle j).session = none := fun j => h.closed j (by rw [hm]; nofun)
  obtain ⟨_, d, hd, place', c', files', hfound, hholds⟩ :=
    (triple_openIndex (d := p.desk i now) (hclosed i) fun _ => ⟨place, c, files, hopens⟩).exists_ok
      rfl
  -- what is found is what was there to be found
  obtain ⟨rfl, rfl, rfl⟩ := hopens.unique hfound rfl rfl rfl
  have hshelf := hholds.1
  rw [hd]
  refine h.leave_holds m.documents (hshelf ▸ hholds) (.of_holds hholds rfl rfl rfl)
    (fun j _ => hclosed j) ?_ ?_ h.documents
  · rw [hshelf, ← (h.paths i).2]
    exact List.mem_cons_self
  · rw [hshelf, ← (h.paths i).1]
    exact hfound.kept

/-- A closing by the holder. -/
theorem Refines.step_close (h : Refines p m path key place c) (hm : m.holder = some i)
    (now : Binary64) :
    Refines (p.leave i (Desk.closeIndex.outcome (p.desk i now)).2) { m with holder := none } path
      key place c := by
  obtain ⟨-, hkept, hholds⟩ := h.held i hm
  obtain ⟨hshelf, hindex⟩ := stands_closeIndex (hholds now)
  -- the files stay as the last commit left them, and the path is free for the next handle
  refine h.leave_closed ?_ ⟨⟨_, hindex⟩, ?_, ?_, ?_⟩
    (h.others hm) ?_ ?_
  · rw [hshelf]
    exact hkept
  · rw [hshelf]
  · rw [hshelf]
  · rw [hshelf]
  · rw [hindex]
  · rw [hshelf, (h.paths i).2]
    simp

/-- Any other request of the holder. -/
theorem Refines.step_held (h : Refines p m path key place c) (hm : m.holder = some i)
    (now : Binary64) {r : Request} (hr : r.Sound) (hclose : r ≠ .closeIndex) :
    ∃ c', Refines (p.leave i (r.action.outcome (p.desk i now)).2)
      { m with documents := Ideal.change m.documents r } path key place c' := by
  have hholds := (h.held i hm).2.2 now
  have hsteady : Steady (Holds True p.shelf (p.handle i) place (.settled c)) := steady_open
  rcases r with _ | _ | es | e | id | _ | r | _
  · -- an index that is open stays as it is
    refine ⟨c, h.leave_same hm ?_⟩
    rw [Request.action, outcome_openIndex_open hholds.isOpen]
    exact hholds
  · exact absurd rfl hclose
  · -- the documents of the elements, and nothing else
    obtain ⟨n, d, hd, -, xs, c', hxs, hlive, hholds'⟩ :=
      (triple_buildIndex fun _ e he => ⟨_, ofElement_projection (hr e he)⟩).exists_ok hholds
    refine ⟨c', ?_⟩
    rw [Request.action, outcome_discard, hd]
    have hnew := h.leave_written hm hholds'
    rw [hlive, mapM_projection hxs] at hnew
    exact hnew
  · obtain ⟨_, d, hd, x, hx, c', hc', hholds'⟩ :=
      (triple_updateElement fun _ => ⟨_, ofElement_projection hr.1⟩).exists_ok hholds
    refine ⟨c', ?_⟩
    rw [Request.action, hd]
    have hnew := h.leave_written hm hholds'
    have hlive : (c'.live : Multiset Document) =
        Ideal.without m.documents e.id + {projection e} := by
      rw [hc', ofElement_ok hx, ← h.documents, ← live_remove hr.2 c]
      rfl
    rw [hlive] at hnew
    exact hnew
  · obtain ⟨_, d, hd, c', hc', hholds'⟩ := (triple_deleteElement hr.1).exists_ok hholds
    refine ⟨c', ?_⟩
    rw [Request.action, hd]
    have hnew := h.leave_written hm hholds'
    have hlive : (c'.live : Multiset Document) = Ideal.without m.documents id := by
      rw [hc', ← h.documents, ← live_remove hr.2 c]
      rfl
    rw [hlive] at hnew
    exact hnew
  · exact ⟨c, h.leave_same hm (hsteady.refreshNow _ hholds)⟩
  · exact ⟨c, h.leave_same hm ((hsteady.read r).discard _ hholds)⟩
  · exact ⟨c, h.leave_same hm (hsteady.docCount.discard _ hholds)⟩

/-- A request of a handle that is not the holder, other than an opening of a free index. -/
theorem Refines.step_closed (h : Refines p m path key place c) (hm : m.holder ≠ some i)
    (now : Binary64) {r : Request} (hr : r.Sound) (hopen : r = .openIndex → m.holder ≠ none) :
    Refines (p.leave i (r.action.outcome (p.desk i now)).2) m path key place c := by
  have hclosed := h.closed i hm
  by_cases hr' : r = .openIndex
  · obtain ⟨j, hj⟩ := Option.ne_none_iff_exists'.mp (hopen hr')
    have hclaimed : (p.handle i).key ∈ p.shelf.claimed := by
      rw [(h.paths i).2]
      exact (h.held j hj).1
    rw [hr']
    exact h.leave_stands (keeps_openIndex_claimed hclosed hclaimed _ (stands_desk p i now))
  · exact h.leave_stands (keeps_action_closed hclosed hr hr' _ (stands_desk p i now))

/-- **The step.** Whatever is asked of any handle, the process goes on refining the ideal. -/
theorem Refines.step (h : Refines p m path key place c) {s : Step ι} (hs : s.request.Sound) :
    ∃ c', Refines (p.step s) (m.step s) path key place c' := by
  rcases hm : m.holder with _ | i
  · -- nobody holds the index: only an opening does something
    by_cases hr : s.request = .openIndex
    · have hstep : m.step s = { m with holder := some s.handle } := by
        rw [Ideal.step, hm, hr]
      rw [hstep, Process.step, hr]
      exact ⟨c, h.step_open hm s.now⟩
    · have hstep : m.step s = m := by
        rw [Ideal.step, hm]
        dsimp only
        split
        · exact absurd ‹_› hr
        · rfl
      rw [hstep]
      exact ⟨c, h.step_closed (by rw [hm]; nofun) s.now hs fun heq => absurd heq hr⟩
  -- someone holds it: what the others ask is refused
  by_cases hi : i = s.handle
  · subst hi
    by_cases hr : s.request = .closeIndex
    · have hstep : m.step s = { m with holder := none } := by
        rw [Ideal.step, hm, hr]
        exact if_pos rfl
      rw [hstep, Process.step, hr]
      exact ⟨c, h.step_close hm s.now⟩
    · have hstep : m.step s = { m with documents := Ideal.change m.documents s.request } := by
        rw [Ideal.step, hm]
        dsimp only
        rw [if_pos rfl]
        split
        · exact absurd ‹_› hr
        · rfl
      rw [hstep]
      exact h.step_held hm s.now hs hr
  · have hstep : m.step s = m := by
      rw [Ideal.step, hm]
      exact if_neg hi
    rw [hstep]
    refine ⟨c, h.step_closed ?_ s.now hs fun _ => by rw [hm]; nofun⟩
    rw [hm]
    exact fun heq => hi (Option.some.inj heq)

/-- **The run.** -/
theorem Refines.run (h : Refines p m path key place c) {steps : List (Step ι)}
    (hsteps : ∀ s ∈ steps, s.request.Sound) :
    ∃ c', Refines (p.run steps) (m.run steps) path key place c' := by
  -- every step has a collection of its own, so it is generalized with the process
  induction steps generalizing p m c with
  | nil => exact ⟨c, h⟩
  | cons s steps ih =>
    obtain ⟨c', h'⟩ := h.step (hsteps s (by simp))
    exact ih h' fun s hs => hsteps s (by simp [hs])

omit [DecidableEq ι] in
/-- Handles that find a collection are ready with its documents. -/
theorem ready_of_opens
    (hhandles : ∀ i, ∃ heap threads interval,
      p.handle i = Index.new p.shelf.folder path heap threads interval)
    (hopens : ∀ i, ∃ files, Opens p.shelf (p.handle i) place c files) : p.Ready path c.live := by
  refine ⟨hhandles, fun i now => ?_⟩
  obtain ⟨heap, threads, interval, hi⟩ := hhandles i
  have hclosed : (p.handle i).session = none := by
    rw [hi]
    rfl
  obtain ⟨files, hfinds⟩ := hopens i
  obtain ⟨_, d, hd, place', c', files', hfound, -, w, hw, hW⟩ :=
    (triple_openIndex (d := p.desk i now) hclosed fun _ => ⟨_, _, _, hfinds⟩).exists_ok rfl
  -- what opening finds is unique, so the collection found here is the one of the hypothesis
  obtain ⟨-, rfl, -⟩ := hfinds.unique hfound rfl rfl rfl
  refine ⟨d, ⟨w, place'⟩, hd, ?_, ?_⟩
  · rw [hw]
  · rw [hW.committed]
    rfl

omit [DecidableEq ι] in
/-- Handles that are ready refine what an opening shows. -/
theorem refines_of_ready {ds : List Document} (h : p.Ready path ds) (i : ι) :
    ∃ place c, Refines p ⟨none, ds⟩ path (Path.resolve p.shelf.folder path).text place c := by
  have hpaths : ∀ j, (p.handle j).path = path ∧
      (p.handle j).key = (Path.resolve p.shelf.folder path).text ∧ (p.handle j).session = none := by
    intro j
    obtain ⟨heap, threads, interval, hj⟩ := h.handles j
    rw [hj]
    exact ⟨rfl, rfl, rfl⟩
  -- what each handle finds
  have hfinds : ∀ j, ∃ place c files, Opens p.shelf (p.handle j) place c files ∧ c.live = ds := by
    intro j
    obtain ⟨d, s, hd, hs, hlive⟩ := h.opens j .zero
    have htriple : Triple False (· = p.desk j .zero) Desk.openIndex _ :=
      triple_openIndex (hpaths j).2.2 fun hsure => hsure.elim
    obtain ⟨place, c, files, hopens, hholds⟩ := htriple.ok rfl hd
    refine ⟨place, c, files, hopens, ?_⟩
    rw [← hlive, (hholds.of_session hs).2.committed]
    rfl
  obtain ⟨place, c, files, hopens, hlive⟩ := hfinds i
  -- all find the same
  have hall : ∀ j, ∃ files, Opens p.shelf (p.handle j) place c files := by
    intro j
    obtain ⟨place', c', files', hopens', -⟩ := hfinds j
    obtain ⟨rfl, rfl, rfl⟩ := hopens.unique hopens' rfl rfl
      ((hpaths j).1.trans (hpaths i).1.symm)
    exact ⟨_, hopens'⟩
  refine ⟨place, c, fun j => ⟨(hpaths j).1, (hpaths j).2.1⟩, fun j => ?_, ?_, fun j _ =>
    (hpaths j).2.2, fun _ => hall, fun _ hj => absurd hj nofun⟩
  · obtain ⟨files', hopens'⟩ := hall j
    exact hopens'.writer
  · rw [hlive]

omit [DecidableEq ι] in
/-- What the holder shows. -/
theorem Refines.shows (h : Refines p m path key place c) (hm : m.holder = some i)
    (now : Binary64) :
    (∀ clauses limit, ((searchGuarded refreshIfDue (.ok (some clauses)) limit).outcome
      (p.desk i now)).1 = lookUp clauses limit c) ∧
        (Desk.docCount.outcome (p.desk i now)).1 = .ok c.live.length := by
  have hholds := (h.held i hm).2.2 now
  obtain ⟨hserved, hseen⟩ := hholds.served
  refine ⟨fun clauses limit => ?_, ?_⟩
  · rw [outcome_searchGuarded hserved, hseen]
  obtain ⟨-, w, hw, hW⟩ := hholds
  rw [outcome_docCount hw hW.rest, (hW.source.willing trivial).refusal? .searcher, hW.visible]
  rfl

omit [DecidableEq ι] in
/-- A handle is open just if it is the holder. -/
theorem Refines.isOpen_iff (h : Refines p m path key place c) (i : ι) :
    (p.handle i).isOpen = true ↔ m.holder = some i := by
  constructor
  · intro hopen
    by_contra hm
    rw [Index.isOpen_eq_false.mpr (h.closed i hm)] at hopen
    exact absurd hopen nofun
  · intro hm
    obtain ⟨-, -, hholds⟩ := h.held i hm
    exact (hholds .zero).isOpen

end Refines

/-- **The index refines a collection of documents, over every run.** Handles on one path are opened,
closed, written and read in any order and at any times. Then a handle is open just when it holds the
ideal collection; and whatever the open handle is next asked to look up, at any time and for any
interval, is looked up in a collection whose documents are the ideal ones, which it also counts. -/
theorem run_refines {ι : Type} [DecidableEq ι] (p : Process ι) (path : Path) (ds : List Document)
    (hready : p.Ready path ds) (steps : List (Step ι)) (hsound : ∀ s ∈ steps, s.request.Sound)
    (i : ι) :
    (((p.run steps).handle i).isOpen = true ↔ (Ideal.run ⟨none, ds⟩ steps).holder = some i) ∧
    (((p.run steps).handle i).isOpen = true → ∀ now, ∃ c : Collection,
      (c.live : Multiset Document) = (Ideal.run ⟨none, (ds : Multiset Document)⟩ steps).documents ∧
      (∀ clauses limit, ((searchGuarded refreshIfDue (.ok (some clauses)) limit).outcome
        ((p.run steps).desk i now)).1 = lookUp clauses limit c) ∧
      (Desk.docCount.outcome ((p.run steps).desk i now)).1 = .ok c.live.length) := by
  -- one index for all handles, so that it does not matter whose answers are looked at
  obtain ⟨place, c, hrefines⟩ := refines_of_ready hready i
  obtain ⟨c', h⟩ := hrefines.run hsound
  refine ⟨h.isOpen_iff i, fun hopen now => ⟨c', h.documents, ?_⟩⟩
  exact h.shows ((h.isOpen_iff i).mp hopen) now

/-- Two handles on a folder that is not there: one builds two documents of one id and closes, the
other opens and replaces them, and what the first one asks for then is refused. -/
theorem run_refines_pair :
    let e : Element := { id := "a", name := "Old", payload := .asset }
    let f : Element := { id := "a", name := "New", payload := .member .method {} }
    let p : Process Bool := {
      shelf := {}
      handle := fun b => Index.new ⟨1, []⟩ ⟨1, ["index"]⟩ 50 (if b then 1 else 2) .zero }
    let steps : List (Step Bool) := [⟨false, .zero, .openIndex⟩, ⟨false, .zero, .build [e, e]⟩,
      ⟨true, .zero, .openIndex⟩, ⟨false, .zero, .closeIndex⟩, ⟨true, .zero, .openIndex⟩,
      ⟨true, .zero, .update f⟩, ⟨false, .zero, .delete "a"⟩]
    ((p.run steps).handle true).isOpen = true ∧
      (Desk.docCount.outcome ((p.run steps).desk true .zero)).1 = .ok 1 := by
  intro e f p steps
  have hwriter : ∀ b, TakesWriter p.shelf (p.handle b) ["index"] := by
    intro b
    cases b
    · exact ⟨50000000, 2, rfl, rfl, rfl, by decide⟩
    · exact ⟨50000000, 1, rfl, rfl, rfl, by decide⟩
  have hready : p.Ready ⟨1, ["index"]⟩ [] := by
    -- the folder is new, so both handles find an index without documents
    have hfinds : ∀ b, ∃ files, Opens p.shelf (p.handle b) ["index"] {} files := by
      intro b
      have hmade : p.shelf.files.makeFolder p.shelf.folder.parts (p.handle b).path =
          .ok (⟨[(["index"], .folder)]⟩, ["index"]) := rfl
      exact Opens.fresh nofun hmade rfl rfl (hwriter b)
    exact ready_of_opens (fun b => ⟨50, if b then 1 else 2, .zero, rfl⟩) hfinds
  have hid : "a".utf8ByteSize < Document.maxValueBytes := by decide
  have he : Indexable e := ⟨rfl, by decide⟩
  have hf : Indexable f := ⟨rfl, by decide⟩
  have hsound : ∀ s ∈ steps, s.request.Sound := by
    intro s hs
    simp only [steps, List.mem_cons, List.not_mem_nil, or_false] at hs
    rcases hs with rfl | rfl | rfl | rfl | rfl | rfl | rfl
    · trivial
    · intro x hx
      simp only [List.mem_cons, List.not_mem_nil, or_false, or_self] at hx
      rw [hx]
      exact he
    · trivial
    · trivial
    · trivial
    · exact ⟨hf, hid⟩
    · exact ⟨by decide, hid⟩
  have hholder : (Ideal.run ⟨none, ([] : List Document)⟩ steps).holder = some true := rfl
  have hdocuments : (Ideal.run ⟨none, ([] : List Document)⟩ steps).documents =
      Ideal.without ([projection e, projection e] : List Document) "a" + {projection f} := rfl
  obtain ⟨hopen, hsees⟩ := run_refines p ⟨1, ["index"]⟩ [] hready steps hsound true
  have htrue := hopen.mpr hholder
  obtain ⟨c, hc, -, hcount⟩ := hsees htrue .zero
  refine ⟨htrue, ?_⟩
  -- the ideal collection has lost the two old elements with the id and got the new one
  have hcard : c.live.length = 1 := by
    rw [← Multiset.coe_card, hc, hdocuments]
    decide
  rw [hcount, hcard]

end CodeCatalog.Search
