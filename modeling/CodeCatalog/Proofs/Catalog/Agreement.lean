/-
After a build, store and index agree.

A build clears the store, fills it, and hands the elements that the store now has to the index. So
whatever the two held before, and however far apart they had come, the index gets one document for
each distinct id, and that of the element that the store keeps. `Agrees` says what follows for those
who ask: the numbers are the same, every hit is the summary of a stored element, and every stored
element is among the hits for its kind.

What is committed is also what readers see, and what a later opening finds, wherever a handle shows
what its folder keeps. A catalogue comes to a build by any calls, failing ones among them, with
`Desk.Backed` as their invariant. It leaves the build by any calls that write nothing, and their
invariant is `Desk.Shows`.
-/
import CodeCatalog.Catalog
import CodeCatalog.Proofs.Search.Finding
import CodeCatalog.Proofs.Search.Session
import CodeCatalog.Proofs.Store.History

set_option autoImplicit false

namespace CodeCatalog.Catalog

open Act Search

/-! ## Questions and calls

A question is put in words that may be wrong, so it is understood first and then put to the index. A
call is a question or something that changes the catalogue; a run is a list of calls, each made on
what the one before it left. -/

/-- A search: a question that is put to the catalogue, or a read of its index. -/
inductive Question
  | ask (a : Ask)
  | read (r : Desk.Read)

namespace Question

/-- The read that answers a question. -/
def readOf (limits : LimitSettings) : Question → Except Fault Desk.Read
  | ask a => Catalog.readOf limits a
  | read r => .ok r

/-- The action that answers a question. -/
def answer : Question → Act Catalog (List Summary)
  | ask a => search a
  | read r => onIndex (Desk.read r)

end Question

/-- What happens to a catalogue: calls of its own, calls of its store and of its index, and what
others do meanwhile. -/
inductive Call
  | openIndex
  | closeIndex
  | build (es : Feed)
  | buildIndex (es : Feed)
  | update (e : Option Element)
  | delete (id : Json.Value)
  | store (c : Store.Call)
  | refresh
  | count
  | ask (q : Question)
  /-- Time goes on. -/
  | turn (now : Binary64)
  /-- The engine is told where to fail. -/
  | tell (script : Script)
  /-- Others claim paths, hold writers, and take processors. -/
  | share (claimed : List String) (held : List Place) (processors : Nat)
  /-- Others change the files of an index that is closed. -/
  | replace (files : Tree Artifact)

namespace Call

/-- The action of a call. What it returns or raises goes to the caller. -/
def action : Call → Act Catalog Unit
  | openIndex => onIndex Desk.openIndex
  | closeIndex => onIndex Desk.closeIndex
  | build es => discard (Catalog.build es)
  | buildIndex es => onIndex (discard (Desk.buildIndex es))
  | update e => onIndex (Desk.updateElement e)
  | delete id => onIndex (Desk.deleteElement id)
  | store s => modify fun c => { c with store := (s.run c.store).1 }
  | refresh => onIndex Desk.refresh
  | count => onIndex (discard Desk.docCount)
  | ask q => discard q.answer
  | turn now => modify fun c => { c with desk := { c.desk with now := now } }
  | tell script => onIndex (Desk.modifyEngine fun e => { e with script := script })
  | share claimed held processors => onIndex (Desk.modifyShelf fun s =>
      { s with claimed := claimed, held := held, processors := processors })
  | replace files => onIndex do
      if !(← get).index.isOpen then Desk.modifyShelf fun s => { s with files := files }

/-- Whether a call may write to the store or to the index. -/
def writes : Call → Bool
  | build _ => true
  | buildIndex _ => true
  | update _ => true
  | delete _ => true
  | store _ => true
  | replace _ => true
  | _ => false

end Call

/-- The catalogue after a call. -/
def step (c : Catalog) (x : Call) : Catalog :=
  (x.action.outcome c).2

/-- The catalogue after calls. -/
def run (c : Catalog) (calls : List Call) : Catalog :=
  calls.foldl step c

/-- A catalogue that has just been made. -/
def new (shelf : Shelf) (path : Path) (index : IndexSettings) (limits : LimitSettings) :
    Catalog where
  limits := limits
  desk := { shelf := shelf, index := indexOf shelf.folder path index }

/-! ## What calls keep

Only opening, closing and writing change anything besides the readers of an index. So what reading
keeps outlives every question, and a run of calls that write nothing keeps what opening and closing
keep as well. -/

/-- The store is as `Q` says, and the handle of the index as `P` says. -/
def Has (Q : Store → Prop) (P : Desk → Prop) (c : Catalog) : Prop :=
  Q c.store ∧ P c.desk

variable {Q : Store → Prop} {P : Desk → Prop}

/-- What an action on the index keeps of the index, it keeps of the catalogue. -/
theorem keeps_onIndex {α : Type} {a : IndexAct α} (ha : Keeps P a) : Keeps (Has Q P) (onIndex a) :=
  fun c hc => ⟨hc.1, ha c.desk hc.2⟩

/-- Answering a question keeps what reading keeps. -/
theorem keeps_answer (hP : Desk.Steady P) (q : Question) : Keeps (Has Q P) q.answer := by
  -- a question that is not understood is refused before the index is asked
  rcases q with a | r
  · refine Keeps.get.bind fun c => Keeps.bind ?_ fun r => keeps_onIndex (hP.read r)
    rcases readOf c.limits a with f | r
    · exact Keeps.fail f
    · exact Keeps.pure r
  · exact keeps_onIndex (hP.read r)

/-- **A call that writes nothing keeps what lasts.** -/
theorem keeps_action (hP : Desk.Lasting P) {x : Call} (hx : x.writes = false) :
    Keeps (Has Q P) x.action := by
  rcases x with _ | _ | es | es | e | id | s | _ | _ | q | now | script | ⟨claimed, held, n⟩ | files
  -- what writes is excluded by hypothesis, and each of the other calls is an action on the index or
  -- leaves the desk's collection as it is
  · exact keeps_onIndex hP.openIndex
  · exact keeps_onIndex hP.closeIndex
  · exact absurd hx nofun
  · exact absurd hx nofun
  · exact absurd hx nofun
  · exact absurd hx nofun
  · exact absurd hx nofun
  · exact keeps_onIndex hP.refreshNow
  · exact keeps_onIndex hP.docCount.discard
  · exact (keeps_answer hP.toSteady q).discard
  · exact Keeps.modify fun c hc => ⟨hc.1, hP.turn c.desk now hc.2⟩
  · exact keeps_onIndex (hP.tell script)
  · exact keeps_onIndex (hP.share claimed held n)
  · exact absurd hx nofun

/-- Calls that write nothing keep what openings, closings and reads keep. -/
theorem keeps_run (hP : Desk.Lasting P) {calls : List Call} (hcalls : ∀ x ∈ calls, x.writes = false)
    {c : Catalog} (hc : c.Has Q P) : (c.run calls).Has Q P := by
  induction calls generalizing c with
  | nil => exact hc
  | cons x calls ih =>
    exact ih (fun y hy => hcalls y (by simp [hy])) (keeps_action hP (hcalls x (by simp)) c hc)

/-! ## What is committed is kept

Whatever becomes of a write, what an open index has committed last is in its folder. This is what a
later opening finds, so the agreement below outlives runs in which the handle is closed and opened
in between. -/

/-- A build of the catalogue leaves the last commit of its index in the folder, whether it is done
or fails. -/
theorem keeps_backed_build (es : Feed) : Keeps (fun c => c.desk.Backed) (build es) := by
  -- the store is cleared and filled without a look at the index
  have hfill : Keeps (fun c : Catalog => c.desk.Backed) (fillStore es) := fun _ hc => hc
  have hclear : Keeps (fun c : Catalog => c.desk.Backed)
      (modify fun c => { c with store := .empty } : Act Catalog Unit) := Keeps.modify fun _ hc => hc
  have hindex : ∀ es, Keeps (fun c : Catalog => c.desk.Backed) (onIndex (Desk.buildIndex es)) :=
    fun es c hc => Desk.sturdy_backed.buildIndex es c.desk hc
  refine hclear.bind fun _ => hfill.bind fun _ => Keeps.get.bind fun c => ?_
  refine (hindex _).bind fun count => ?_
  exact Keeps.bind (fun c hc => hc) fun _ => Keeps.pure count

/-- **The step.** Whatever is called, what is committed is kept. -/
theorem backed_step {c : Catalog} (hc : c.desk.Backed) (x : Call) : (c.step x).desk.Backed := by
  have hwrites : x.writes = false → (c.step x).desk.Backed := fun hx =>
    (keeps_action (Q := fun _ => True) Desk.lasting_backed hx c ⟨trivial, hc⟩).2
  rcases x with _ | _ | es | es | e | id | s | _ | _ | q | now | script | ⟨claimed, held, n⟩ | files
  · exact hwrites rfl
  · exact hwrites rfl
  · exact (keeps_backed_build es).discard c hc
  · exact (Desk.sturdy_backed.buildIndex es).discard c.desk hc
  · exact Desk.sturdy_backed.updateElement e c.desk hc
  · exact Desk.sturdy_backed.deleteElement id c.desk hc
  · exact hc
  · exact hwrites rfl
  · exact hwrites rfl
  · exact hwrites rfl
  · exact hwrites rfl
  · exact hwrites rfl
  · exact hwrites rfl
  · -- the files are changed of a closed index only, which has nothing that is committed
    have hreplace : Keeps Desk.Backed (do
        if !(← get).index.isOpen then Desk.modifyShelf fun s => { s with files := files }) := by
      refine Keeps.bind_get fun d hd => ?_
      rcases hopen : d.index.isOpen
      · exact Desk.backed_of_closed (Index.isOpen_eq_false.mp hopen)
      · exact hd
    exact hreplace c.desk hc

/-- **The run.** -/
theorem backed_run (shelf : Shelf) (path : Path) (index : IndexSettings) (limits : LimitSettings)
    (calls : List Call) : ((new shelf path index limits).run calls).desk.Backed := by
  have hrun : ∀ c : Catalog, c.desk.Backed → (c.run calls).desk.Backed := by
    induction calls with
    | nil => exact fun c hc => hc
    | cons x calls ih => exact fun c hc => ih _ (backed_step hc x)
  exact hrun _ (Desk.backed_of_closed rfl)

/-! ## Builds

A build fills a new store first, and only if that goes well does it rebuild the index from it. Both
are told by their outcome, since a build that fails may have done the first. -/

variable {c t : Catalog} {es : List Element}

/-- What is done on the index has its outcome there, and the store has no part in it. -/
theorem onIndex_outcome {α : Type} {a : IndexAct α} {r : Except Failure α}
    (h : (onIndex a).outcome c = (r, t)) : a.outcome c.desk = (r, t.desk) ∧ t.store = c.store := by
  rw [onIndex, outcome_onPart] at h
  obtain ⟨rfl, rfl⟩ := Prod.mk.inj h
  exact ⟨rfl, rfl⟩

/-- What filling a store from the start raises is what is wrong with the elements. -/
theorem outcome_fillStore (es : Feed) (c : Catalog) :
    (fillStore es).outcome { c with store := .empty } =
      (match Store.feedFailure? es with
        | none => .ok ()
        | some f => .error f,
        { c with store := (Store.empty.addAll es).1 }) := by
  rw [← (Store.records_empty.addAll es).2]
  rfl

/-- A store that is filled with elements records them, and nothing was in the way. -/
theorem fillStore_outcome (h : (fillStore (es.map fun e => .ok (some e))).outcome
    { c with store := .empty } = (.ok (), t)) : Store.Records t.store es ∧ t.desk = c.desk := by
  have hrecords := (Store.records_empty.addAll (es.map fun e => .ok (some e))).1
  rw [List.nil_append, Store.added_map] at hrecords
  rw [outcome_fillStore] at h
  obtain ⟨-, rfl⟩ := Prod.mk.inj h
  exact ⟨hrecords, rfl⟩

/-- **A build that returns.** The store records the elements, and the index, which is open, shows
the documents of those that the store has. -/
theorem build_outcome {n : Nat} (hbacked : c.desk.Backed)
    (h : (build (es.map fun e => .ok (some e))).outcome c = (.ok n, t)) :
    n = t.store.getAll.length ∧ t.desk.index.isOpen = true ∧ Store.Records t.store es ∧
      ∃ place k, t.desk.Shows place k ∧ t.store.getAll.mapM Document.ofElement = .ok k.live := by
  rw [build, outcome_bind_of_ok (outcome_modify _ c)] at h
  obtain ⟨_, c₂, h₂, h⟩ := outcome_bind_ok.mp h
  obtain ⟨hrecords, hdesk⟩ := fillStore_outcome h₂
  rw [outcome_bind_of_ok (outcome_get c₂)] at h
  obtain ⟨m, c₄, h₄, h⟩ := outcome_bind_ok.mp h
  obtain ⟨hbuild, hstore⟩ := onIndex_outcome h₄
  obtain ⟨_, c₅, h₅, h⟩ := outcome_bind_ok.mp h
  obtain ⟨hn, rfl⟩ := Prod.mk.inj h
  obtain rfl := Except.ok.inj hn
  -- the index was open, and what was committed before the build was kept
  obtain ⟨s, hs⟩ := Option.isSome_iff_exists.mp (Desk.isOpen_of_buildIndex hbuild)
  obtain ⟨hrest, hkept⟩ := (hdesk ▸ hbacked : c₂.desk.Backed) s hs
  have hholds : Desk.Holds False c₂.desk.shelf c₂.desk.index s.place s.engine.source.content
      c₂.desk := by
    refine ⟨rfl, s.engine, ?_, hrest, rfl, False.elim⟩
    rw [← hs]
  obtain ⟨hm, _, k, hxs, rfl, hholds'⟩ := (Desk.triple_buildIndex False.elim).ok hholds hbuild
  have hshows : c₄.desk.Shows s.place k := Desk.shows_of_holds (hkept.keep k) hholds'
  -- the line in the log comes after the write and changes nothing of it
  have hlast : Keeps (Has (· = c₂.store) fun d => d.Shows s.place k ∧ d.index.isOpen = true)
      (onIndex do
        let d ← get
        Desk.emit .info "code_index_built"
          [("elements", .int m), ("path", .text d.index.path.text)]) :=
    keeps_onIndex (Keeps.get.bind fun _ => Keeps.modify fun _ hd =>
      ⟨⟨hd.1.kept, hd.1.session⟩, hd.2⟩)
  obtain ⟨hstore', hshows', hopen⟩ := hlast.of_outcome ⟨hstore, hshows, hholds'.isOpen⟩ h₅
  rw [hstore']
  exact ⟨hm, hopen, hrecords, s.place, k, hshows', hxs⟩

/-! ## Agreement

Store and index are filled from the same elements, the store with the last one for each id and the
index with what these are projected to. From this on each question to the index is answered from
documents, and each of these is the projection of an element in the store. -/

/-- **Store and index agree on elements**: on which there are, one for each distinct id, and on what
is found. -/
structure Agrees (c : Catalog) (es : List Element) : Prop where
  /-- The store has the last element with each id, in the order in which the ids first came. -/
  stored : c.store.getAll.map some = (es.map (·.id)).eraseDups.map (Store.current? es)
  count : c.store.count = (es.map (·.id)).eraseDups.length
  /-- The index has the documents of what the store has, shows them, and waits for nothing. -/
  documents : ∀ s, c.desk.index.session = some s →
    c.store.getAll.mapM Document.ofElement = .ok s.engine.source.committed.live ∧
      s.engine.source.visible = s.engine.source.committed ∧ s.engine.source.pending = []
  /-- They are counted, unless the engine refuses to show them. -/
  docCount : ∀ s, c.desk.index.session = some s → (Desk.docCount.outcome c.desk).1 =
    match s.engine.source.refusal? .searcher with
    | some f => .error (.fault f)
    | none => .ok (es.map (·.id)).eraseDups.length
  /-- Every hit of every search is the summary of the element that the store has under its id. -/
  hits : ∀ (q : Question) found t, q.answer.outcome c = (.ok found, t) → ∀ s ∈ found,
    ∃ e, c.store.getById s.id = some e ∧ Summary.ofElement e = s
  /-- Every element is among the hits for its kind, in an open index whose engine serves readers and
  with room for as many hits as there are documents. -/
  found : ∀ (q : Question) kind limit n, q.readOf c.limits = .ok (.byKind kind limit) →
    Limit.word limit = .ok n → (es.map (·.id)).eraseDups.length ≤ n →
      ∀ s, c.desk.index.session = some s → s.engine.source.Serves →
        ∀ e ∈ c.store.getAll, kindOf kind = .ok e.kind →
          ∃ found, (q.answer.outcome c).1 = .ok found ∧ Summary.ofElement e ∈ found

/-- A question is put to the index as a read, once its words are understood. -/
theorem outcome_answer (q : Question) (c : Catalog) :
    q.answer.outcome c = match q.readOf c.limits with
      | .ok r => (onIndex (Desk.read r)).outcome c
      | .error f => (.error (.fault f), c) := by
  rcases q with a | r
  · rw [Question.answer, Question.readOf, search, outcome_bind, outcome_get]
    dsimp only
    rw [outcome_bind]
    rcases readOf c.limits a with f | r
    · rfl
    · rfl
  · rfl

section Shown

variable {place : Place} {k : Collection}

/-- An open index that is served gives its searches the collection that it shows. -/
theorem served_of_shows (hshows : c.desk.Shows place k) {s : Session}
    (hs : c.desk.index.session = some s) (hserves : s.engine.source.Serves) :
    c.desk.Served ∧ c.desk.seen = k := by
  obtain ⟨-, hW⟩ := hshows.session s hs
  exact ⟨⟨s, hs, hW.rest, hserves⟩, (Desk.seen_of_session hs).trans (hW.seen _)⟩

/-- A read of what is shown finds nothing else. -/
theorem exists_of_mem_read (hshows : c.desk.Shows place k)
    (hdocuments : es.mapM Document.ofElement = .ok k.live) {r : Desk.Read} {found : List Summary}
    {d : Desk} (hread : (Desk.read r).outcome c.desk = (.ok found, d)) {s : Summary}
    (hs : s ∈ found) : ∃ e ∈ es, Summary.ofElement e = s := by
  rcases hsession : c.desk.index.session with _ | session
  · -- a closed index is not searched
    rw [Desk.read, Desk.readWith, Desk.searchWith, outcome_bind, outcome_get] at hread
    dsimp only at hread
    rw [Index.isOpen_eq_false.mpr hsession] at hread
    obtain rfl : [] = found := Except.ok.inj (Prod.mk.inj hread).1
    exact absurd hs List.not_mem_nil
  · rcases (Desk.triple_read r).ok (hshows.holds hsession) hread with rfl | ⟨clauses, hfound⟩
    · exact absurd hs List.not_mem_nil
    · exact Desk.exists_of_mem_lookUp (mapM_projection hdocuments) hfound hs

/-- **What a store records and an index shows agrees.** -/
theorem agrees_of_shows (hrecords : Store.Records c.store es) (hshows : c.desk.Shows place k)
    (hdocuments : c.store.getAll.mapM Document.ofElement = .ok k.live) : c.Agrees es := by
  have hreflects := hrecords.reflects
  have hlength : c.store.getAll.length = (es.map (·.id)).eraseDups.length := by
    have := congrArg List.length hreflects.getAll
    rwa [List.length_map, List.length_map] at this
  have hprojected : k.live = c.store.getAll.map projection := mapM_projection hdocuments
  have hlive : k.live.length = (es.map (·.id)).eraseDups.length := by
    rw [hprojected, List.length_map, hlength]
  refine ⟨hreflects.getAll, hreflects.count, ?_, ?_, ?_, ?_⟩
  · intro s hs
    obtain ⟨-, hW⟩ := hshows.session s hs
    rw [hW.committed, hW.visible]
    exact ⟨hdocuments, rfl, hW.pending⟩
  · intro s hs
    obtain ⟨-, w, hw, rfl⟩ := hshows.open hs
    obtain ⟨-, hW⟩ := hshows.session s hs
    have hcount := Desk.outcome_docCount hw hW.rest
    rw [hW.visible, Content.settled, hlive] at hcount
    exact hcount
  · intro q found t h s hs
    rw [outcome_answer] at h
    rcases hr : q.readOf c.limits with f | r <;> rw [hr] at h
    · exact absurd h (by simp)
    obtain ⟨e, he, rfl⟩ := exists_of_mem_read hshows hdocuments (onIndex_outcome h).1 hs
    exact ⟨e, hreflects.getById_of_mem he, rfl⟩
  · intro q kind limit n hr hn hroom s hs hserves e he hkind
    -- there is an element, so the limit is not zero
    have hpos : 0 < n := (List.length_pos_of_mem he).trans_le (hlength.trans_le hroom)
    obtain ⟨hserved, hseen⟩ := served_of_shows hshows hs hserves
    have hclauses : (Desk.Read.byKind kind limit).clauses =
        .ok (some [.value .elementType e.kind.name]) := by
      rw [Desk.Read.clauses, hkind]
      rfl
    have hwords : ([.value .elementType e.kind.name] : List Clause).flatMap Clause.rankingWords =
      [] := rfl
    have hfound := Desk.lookUp_in_order hprojected hwords hn
    rw [← hseen, Desk.matching_kind, List.take_of_length_le] at hfound
    · rw [outcome_answer, hr]
      refine ⟨_, Desk.outcome_read hserved hclauses (Desk.hasRoom_of_word hn hpos) hfound, ?_⟩
      exact List.mem_map_of_mem (List.mem_filter.mpr ⟨he, decide_eq_true rfl⟩)
    · exact (List.length_filter_le _ _).trans (hlength.trans_le hroom)

end Shown

/-- **A build that returns makes store and index agree**, whatever was called before it, and they go
on agreeing through everything that writes nothing. It returns the number of distinct ids. -/
theorem build_agrees (shelf : Shelf) (path : Path) (index : IndexSettings) (limits : LimitSettings)
    (before : List Call) (es : List Element) (n : Nat) (c : Catalog)
    (hbuild : (build (es.map fun e => .ok (some e))).outcome
      ((new shelf path index limits).run before) = (.ok n, c)) :
    n = (es.map (·.id)).eraseDups.length ∧ c.desk.index.isOpen = true ∧
      ∀ calls : List Call, (∀ x ∈ calls, x.writes = false) → (c.run calls).Agrees es := by
  obtain ⟨hn, hopen, hrecords, place, k, hshows, hdocuments⟩ :=
    build_outcome (backed_run shelf path index limits before) hbuild
  have hlength := congrArg List.length hrecords.reflects.getAll
  rw [List.length_map, List.length_map] at hlength
  refine ⟨hn.trans hlength, hopen, fun calls hcalls => ?_⟩
  obtain ⟨hstore, hshows'⟩ :=
    keeps_run Desk.lasting_shows hcalls (c := c) (Q := (· = c.store)) ⟨rfl, hshows⟩
  -- the store is the one that the build left, and the index shows what it then showed
  rw [← hstore] at hrecords hdocuments
  exact agrees_of_shows hrecords hshows' hdocuments

/-- Three elements of two ids, built in a folder that is not there: there are two documents, and the
index still agrees with the store after it was closed and opened. -/
theorem build_agrees_pair :
    let e : Element := { id := "a", name := "Old", payload := .asset }
    let f : Element := { id := "b", name := "Other", payload := .asset }
    let g : Element := { id := "a", name := "New", payload := .member .method {} }
    let start := (new {} ⟨1, ["index"]⟩ {} {}).run [.openIndex]
    ∃ c, (build ([e, f, g].map fun e => .ok (some e))).outcome start = (.ok 2, c) ∧
      c.desk.index.isOpen = true ∧ (c.run [.closeIndex, .openIndex]).Agrees [e, f, g] := by
  intro e f g start
  -- the build succeeds by computation; that the files agree then follows from the general result,
  -- so nothing of the run after it has to be computed
  have hvalue : ((build ([e, f, g].map fun e => .ok (some e))).outcome start).1 = .ok 2 := rfl
  rcases hbuild : (build ([e, f, g].map fun e => .ok (some e))).outcome start with ⟨r, c⟩
  rw [hbuild] at hvalue
  obtain rfl : r = .ok 2 := hvalue
  obtain ⟨-, hopen, hagrees⟩ :=
    build_agrees {} ⟨1, ["index"]⟩ {} {} [.openIndex] [e, f, g] 2 c hbuild
  refine ⟨c, rfl, hopen, hagrees _ ?_⟩
  intro x hx
  simp only [List.mem_cons, List.not_mem_nil, or_false] at hx
  rcases hx with rfl | rfl
  · rfl
  · rfl

end CodeCatalog.Catalog
