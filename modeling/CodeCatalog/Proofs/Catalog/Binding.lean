/-
Under a catalogue the index is a map keyed by id.

A build binds the ids of its elements to their documents and unbinds all others; an update binds one
id, and a deletion unbinds one. What an id is `bound` to is up to the last call that concerns it. Where
the index was opened on a fresh folder, and the engine fails nowhere, the documents after any run of
calls are the map of what the ids are bound to (`Maps`), whatever ids the elements repeat.

Two things make it so: the store keeps one element with each id, so a build is keyed; and an update
removes before it adds. The step is proved of the catalogue as an effect on its documents
(`settled_step`), and what the effects make of a map is then about lists alone (`keyed_effect`).
-/
import CodeCatalog.Proofs.Catalog.Agreement
import CodeCatalog.Proofs.Search.Keyed

set_option autoImplicit false

namespace CodeCatalog.Catalog

open Act Search

/-! ## What calls bind

Each call that is accepted binds some ids, to an element or to nothing. What an id is bound to after
a run is told by the last call that binds it, without a look at the index. -/

/-- Elements that a build takes: all of them come, and the index takes those that the store keeps. -/
def Accepted (es : Feed) : Prop :=
  Store.feedFailure? es = none ∧ ∀ e ∈ Store.latest (Store.added es), Indexable e

instance (es : Feed) : Decidable (Accepted es) :=
  inferInstanceAs (Decidable (_ ∧ _))

namespace Call

/-- What a call makes of the documents. -/
def effect : Call → List Document → List Document
  | build es, ds => if Accepted es then (Store.latest (Store.added es)).map projection else ds
  | update (some e), ds => if Indexable e then (Write.update (some e)).effect ds else ds
  | delete (.text id), ds => if id = "" then ds else (Write.delete (.text id)).effect ds
  | _, ds => ds

/-- What a call binds an id to, or that it unbinds it; nothing if the call does not concern it. -/
def binds (id : String) : Call → Option (Option Document)
  | build es =>
    if Accepted es then some ((Store.current? (Store.added es) id).map projection) else none
  | update (some e) => if e.id = id ∧ Indexable e then some (some (projection e)) else none
  | delete (.text i) => if i = id ∧ id ≠ "" then some none else none
  | _ => none

/-- The id that an update or a deletion is about. -/
def target? : Call → Option String
  | update (some e) => some e.id
  | delete (.text id) => some id
  | _ => none

/-- What is aimed at an id is an update with an element of that id, or a removal of it. -/
theorem of_target? {x : Call} {id : String} (h : x.target? = some id) :
    (∃ e : Element, x = update (some e) ∧ e.id = id) ∨ x = delete (.text id) := by
  -- only an update with an element and a delete with a text have a target
  cases x with
  | update element =>
    rcases element with _ | e
    · exact absurd h nofun
    · exact .inl ⟨e, rfl, Option.some.inj h⟩
  | delete v =>
    rcases v with _ | b | n | r | i | items | fields
    · exact absurd h nofun
    · exact absurd h nofun
    · exact absurd h nofun
    · exact absurd h nofun
    · exact .inr (congrArg (fun i => delete (.text i)) (Option.some.inj h))
    · exact absurd h nofun
    · exact absurd h nofun
  | _ => exact absurd h nofun

/-- The calls of a catalogue in use, with ids that are terms: none that closes the index or goes past
the catalogue to write to it, and nothing that befalls its engine or its folder. -/
def Routine : Call → Prop
  | build es => ∀ e ∈ Store.added es, IsTerm e.id
  | update element => ∀ e ∈ element, IsTerm e.id
  | delete id => ∀ s, id = .text s → IsTerm s
  | closeIndex => False
  | buildIndex _ => False
  | tell _ => False
  | share _ _ _ => False
  | replace _ => False
  | _ => True

end Call

/-- **What an id is bound to**: what the last call that concerns it has bound it to. -/
def bound (calls : List Call) (id : String) : Option Document :=
  (calls.reverse.findSome? (Call.binds id)).getD none

/-- The last call that binds an id decides, and one that does not leaves it bound as before. -/
theorem bound_concat (calls : List Call) (x : Call) (id : String) :
    bound (calls ++ [x]) id = (x.binds id).getD (bound calls id) := by
  rw [bound, List.reverse_append, List.reverse_singleton, List.singleton_append,
    List.findSome?_cons]
  rcases x.binds id with _ | o
  · rfl
  · rfl

/-! ## Effects

The effect of a call on a list of documents is a removal with something added or not. Documents that
are keyed by a map are keyed afterwards by the map that the call makes of it, so effects can be
compared through the maps that they stand for. -/

section Effects

variable {m : String → Option Document} {ds : List Document} {x : Call} {id : String}

/-- A build that is accepted binds all there is anew. -/
theorem keyed_build (h : Keyed m ds) {es : Feed} (hterms : ∀ e ∈ Store.added es, IsTerm e.id) :
    Keyed (fun id => ((Call.build es).binds id).getD (m id)) ((Call.build es).effect ds) := by
  simp only [Call.effect, Call.binds]
  by_cases hes : Accepted es
  · rw [if_pos hes]
    refine (Keyed.latest hterms).congr fun id _ => ?_
    rw [if_pos hes, Option.getD_some]
  · rw [if_neg hes]
    refine h.congr fun id _ => ?_
    rw [if_neg hes, Option.getD_none]

/-- An update of an element that the index takes binds its id. -/
theorem keyed_update (h : Keyed m ds) {e : Element} (hterm : IsTerm e.id) :
    Keyed (fun id => ((Call.update (some e)).binds id).getD (m id))
      ((Call.update (some e)).effect ds) := by
  simp only [Call.effect, Call.binds]
  by_cases he : Indexable e
  · rw [if_pos he]
    refine (h.replace hterm).congr fun id _ => ?_
    rw [Function.update_apply]
    -- the call binds its own id, and only if the element can be a document
    by_cases hid : e.id = id
    · rw [if_pos hid.symm, if_pos ⟨hid, he⟩, Option.getD_some]
    · rw [if_neg (Ne.symm hid), if_neg fun h => hid h.1, Option.getD_none]
  · rw [if_neg he]
    refine h.congr fun id _ => ?_
    rw [if_neg fun h => he h.2, Option.getD_none]

/-- A deletion unbinds its id, unless that is empty. -/
theorem keyed_delete (h : Keyed m ds) {i : String} (hterm : IsTerm i) :
    Keyed (fun id => ((Call.delete (.text i)).binds id).getD (m id))
      ((Call.delete (.text i)).effect ds) := by
  simp only [Call.effect, Call.binds]
  by_cases hi : i = ""
  · rw [if_pos hi]
    refine h.congr fun id _ => ?_
    rw [if_neg fun h => h.2 (h.1.symm.trans hi), Option.getD_none]
  · rw [if_neg hi]
    refine (h.remove hterm).congr fun id _ => ?_
    rw [Function.update_apply]
    -- any id but its own keeps what it is bound to
    by_cases hid : i = id
    · rw [if_pos hid.symm, if_pos ⟨hid, fun h => hi (hid.trans h)⟩, Option.getD_some]
    · rw [if_neg (Ne.symm hid), if_neg fun h => hid h.1, Option.getD_none]

/-- **The step on documents.** What is a map is a map after a call, with the ids bound that it binds. -/
theorem keyed_effect (h : Keyed m ds) (hx : x.Routine) :
    Keyed (fun id => (x.binds id).getD (m id)) (x.effect ds) := by
  -- an update without an element and a delete of anything but a text fail before the desk is asked,
  -- so the documents stay
  cases x with
  | build es => exact keyed_build h hx
  | update element =>
    rcases element with _ | e
    · exact h
    · exact keyed_update h (hx e rfl)
  | delete v =>
    rcases v with _ | b | n | r | i | items | fields
    · exact h
    · exact h
    · exact h
    · exact h
    · exact keyed_delete h (hx i rfl)
    · exact h
    · exact h
  | _ => exact h

/-- **The run on documents.** -/
theorem keyed_foldl {calls : List Call} (hcalls : ∀ x ∈ calls, x.Routine) :
    Keyed (bound calls) (calls.foldl (fun ds x => x.effect ds) []) := by
  induction calls using List.reverseRecOn with
  | nil => exact Keyed.nil
  | append_singleton calls x ih =>
    have hbefore := ih fun y hy => hcalls y (List.mem_append_left _ hy)
    rw [List.foldl_concat]
    refine (keyed_effect hbefore (hcalls x (by simp))).congr fun id _ => ?_
    rw [bound_concat]

/-- An update or a deletion that is repeated adds nothing. -/
theorem effect_effect (hx : x.Routine) (htarget : x.target? = some id) (ds : List Document) :
    x.effect (x.effect ds) = x.effect ds := by
  rcases Call.of_target? htarget with ⟨e, rfl, rfl⟩ | rfl
  · simp only [Call.effect]
    -- the second time the element takes its own place
    by_cases he : Indexable e
    · have hown : Collection.hasId e.id (projection e) = true := by
        rw [hasId_projection (hx e rfl), decide_eq_true rfl]
      rw [if_pos he, if_pos he]
      simp [Write.effect, List.filter_append, List.filter_filter, hown]
    · rw [if_neg he, if_neg he]
  · simp only [Call.effect]
    by_cases hid : id = ""
    · rw [if_pos hid, if_pos hid]
    · rw [if_neg hid, if_neg hid]
      simp [Write.effect, List.filter_filter]

/-- An update or a deletion concerns no id but its own. -/
theorem binds_of_ne (htarget : x.target? = some id) {other : String} (hne : other ≠ id) :
    x.binds other = none := by
  rcases Call.of_target? htarget with ⟨e, rfl, rfl⟩ | rfl
  · exact if_neg fun h => hne h.1.symm
  · exact if_neg fun h => hne h.1.symm

/-- What two calls bind that are about different ids does not depend on their order. -/
theorem bound_comm {y : Call} {i j : String} (hx : x.target? = some i) (hy : y.target? = some j)
    (hne : i ≠ j) (calls : List Call) (id : String) :
    bound (calls ++ [x, y]) id = bound (calls ++ [y, x]) id := by
  have hpair : ∀ x y : Call, bound (calls ++ [x, y]) id =
      (y.binds id).getD ((x.binds id).getD (bound calls id)) := by
    intro x y
    rw [← bound_concat, ← bound_concat, List.append_assoc, List.singleton_append]
  rw [hpair, hpair]
  by_cases hid : id = i
  · rw [binds_of_ne hy (hid ▸ hne), Option.getD_none, Option.getD_none]
  · rw [binds_of_ne hx hid, Option.getD_none, Option.getD_none]

end Effects

/-! ## Catalogues

A catalogue whose index is settled carries each accepted call out: the documents are what the effect
says, and nothing waits. By induction this is so after every run. -/

variable {c : Catalog} {k : Collection}

/-- What a store that was filled from the start lists. -/
theorem getAll_addAll (es : Feed) :
    (Store.empty.addAll es).1.getAll = Store.latest (Store.added es) := by
  have hrecords := (Store.records_empty.addAll es).1
  rw [List.nil_append] at hrecords
  exact hrecords.reflects.getAll_eq_latest

/-- A build leaves the index settled, with what it should have. -/
theorem settled_build (hc : c.desk.Settled k) (es : Feed) :
    ∃ k', ((build es).outcome c).2.desk.Settled k' ∧ k'.live = (Call.build es).effect k.live := by
  have hfill := outcome_fillStore es c
  rw [build, outcome_bind_of_ok (outcome_modify _ c)]
  simp only [Call.effect]
  rcases hfailure : Store.feedFailure? es with _ | f <;> rw [hfailure] at hfill
  · rw [outcome_bind_of_ok hfill, outcome_bind_of_ok (outcome_get _)]
    dsimp only
    rw [getAll_addAll]
    obtain ⟨k', hk', hlive⟩ := hc.build (Store.latest (Store.added es))
    refine ⟨k', ?_, ?_⟩
    · -- the line in the log comes after the write and changes nothing of it
      refine Keeps.after (P := fun c : Catalog => c.desk.Settled k') hk' fun count => ?_
      exact Keeps.bind (fun c hc => hc) fun _ => Keeps.pure _
    · rw [hlive]
      by_cases hes : ∀ e ∈ Store.latest (Store.added es), Indexable e
      · rw [if_pos hes, if_pos ⟨hfailure, hes⟩]
      · rw [if_neg hes, if_neg fun h => hes h.2]
  · rw [outcome_bind_of_error hfill]
    refine ⟨k, hc, ?_⟩
    rw [if_neg]
    rintro ⟨h, -⟩
    rw [hfailure] at h
    cases h

/-- So does a removal. -/
theorem settled_delete (hc : c.desk.Settled k) (v : Json.Value) :
    ∃ k', (c.step (.delete v)).desk.Settled k' ∧ k'.live = (Call.delete v).effect k.live := by
  -- what is no text is the id of no document, whether it is refused or not
  have hother : (∀ ds, (Write.delete v).effect ds = ds) →
      ∃ k', ((Desk.deleteElement v).outcome c.desk).2.Settled k' ∧ k'.live = k.live := by
    intro heffect
    obtain ⟨k', hk', hlive⟩ := hc.write (.delete v)
    rw [Write.action, outcome_bind_pure] at hk'
    rw [heffect, ite_self] at hlive
    exact ⟨k', hk', hlive⟩
  rcases v with _ | b | n | r | i | items | fields
  · exact hother fun _ => rfl
  · exact hother fun _ => rfl
  · exact hother fun _ => rfl
  · exact hother fun _ => rfl
  · simp only [Call.effect]
    by_cases hi : i = ""
    · rw [if_pos hi, hi]
      exact ⟨k, hc, rfl⟩
    · rw [if_neg hi]
      exact (hc.delete hi).2
  · exact hother fun _ => rfl
  · exact hother fun _ => rfl

/-- **The step.** Where the engine fails nowhere, a call has its effect on the documents. -/
theorem settled_step (hc : c.desk.Settled k) {x : Call} (hx : x.Routine) :
    ∃ k', (c.step x).desk.Settled k' ∧ k'.live = x.effect k.live := by
  have hsteady : Desk.Steady (Desk.Settled k) := Desk.steady_settled
  cases x with
  | openIndex =>
    -- the index is open already
    have hopen : c.desk.index.isOpen = true := by
      obtain ⟨s, hs, -⟩ := hc
      exact Index.isOpen_of_session hs
    refine ⟨k, ?_, rfl⟩
    show ((Desk.openIndex.outcome c.desk).2).Settled k
    rw [Desk.outcome_openIndex_open hopen]
    exact hc
  | closeIndex => exact hx.elim
  | build es =>
    obtain ⟨k', hk', hlive⟩ := settled_build hc es
    refine ⟨k', ?_, hlive⟩
    rw [step, Call.action, outcome_discard]
    exact hk'
  | buildIndex es => exact hx.elim
  | update element =>
    rcases element with _ | e
    · exact ⟨k, hc, rfl⟩
    · exact (hc.update e).2
  | delete v => exact settled_delete hc v
  | store s => exact ⟨k, hc, rfl⟩
  | refresh => exact ⟨k, hsteady.refreshNow c.desk hc, rfl⟩
  | count => exact ⟨k, hsteady.docCount.discard c.desk hc, rfl⟩
  | ask q =>
    have hasked := (keeps_answer (Q := fun _ => True) hsteady q).discard c ⟨trivial, hc⟩
    exact ⟨k, hasked.2, rfl⟩
  | turn now => exact ⟨k, hc, rfl⟩
  | tell script => exact hx.elim
  | share claimed held processors => exact hx.elim
  | replace files => exact hx.elim

/-- **The run.** -/
theorem settled_run (hc : c.desk.Settled k) {calls : List Call} (hcalls : ∀ x ∈ calls, x.Routine) :
    ∃ k', (c.run calls).desk.Settled k' ∧
      k'.live = calls.foldl (fun ds x => x.effect ds) k.live := by
  induction calls generalizing c k with
  | nil => exact ⟨k, hc, rfl⟩
  | cons x calls ih =>
    obtain ⟨k₁, hk₁, hlive₁⟩ := settled_step hc (hcalls x List.mem_cons_self)
    obtain ⟨k₂, hk₂, hlive₂⟩ := ih hk₁ fun y hy => hcalls y (List.mem_cons_of_mem _ hy)
    exact ⟨k₂, hk₂, by rw [hlive₂, hlive₁, List.foldl_cons]⟩

/-- No collection is kept in the folder of a path, whether the folder is there or not. -/
def Fresh (shelf : Shelf) (path : Path) : Prop :=
  ∀ made place, shelf.files.makeFolder shelf.folder.parts path = .ok (made, place) →
    shelf.files.get? (place ++ [Desk.stateFile]) = none

/-- An index that is opened on a fresh folder has no documents, and an engine that fails nowhere. -/
theorem settled_of_fresh {d : Desk} (hclosed : d.index.session = none)
    (hopen : (Desk.openIndex.outcome d).1 = .ok ())
    (hfresh : Fresh d.shelf d.index.path) : (Desk.openIndex.outcome d).2.Settled {} := by
  rcases hr : Desk.openIndex.outcome d with ⟨r, t⟩
  rw [hr] at hopen
  obtain rfl : r = .ok () := hopen
  obtain ⟨place, k, files, hopens, -⟩ := Desk.openIndex_ok (Index.isOpen_eq_false.mpr hclosed) hr
  -- what is there to be found is found by every opening, and leaves the engine willing
  have hsure : Act.Triple True (· = d) Desk.openIndex _ :=
    Desk.triple_openIndex hclosed fun _ => ⟨place, k, files, hopens⟩
  obtain ⟨place', k', files', hopens', hholds⟩ := hsure.ok rfl hr
  obtain ⟨made, listed, hmade, -⟩ := hopens'.files
  obtain rfl := hopens'.eq_empty (hfresh made place' hmade)
  exact Desk.settled_of_open hholds

/-! ## The map

Put together, the documents after a run are those of the map that its calls bind. What follows are
the laws of maps: one id is bound apart from the others, the same call again changes nothing, and
calls for different ids can be exchanged. -/

/-- The documents that the next search of the index sees. -/
def documents (c : Catalog) : List Document :=
  c.desk.seen.live

/-- **The index of a catalogue is a map**, over all runs of routine calls. -/
structure Maps (c : Catalog) : Prop where
  /-- Every document has an id, and under each id there is at most one: what the id is bound to. -/
  unique : ∀ calls, (∀ x ∈ calls, x.Routine) →
    (∀ d ∈ (c.run calls).documents, ∃ id, IsTerm id ∧ bound calls id = some d) ∧
      ∀ id, IsTerm id →
        (c.run calls).documents.filter (Collection.hasId id) = (bound calls id).toList
  /-- An update returns, binds its id, and leaves the documents of all other ids. -/
  update : ∀ calls, (∀ x ∈ calls, x.Routine) → ∀ e, IsTerm e.id → Indexable e →
    ((Call.update (some e)).action.outcome (c.run calls)).1 = .ok () ∧
      (c.run (calls ++ [.update (some e)])).documents.filter (Collection.hasId e.id) =
        [projection e] ∧
      ∀ id, IsTerm id → id ≠ e.id →
        (c.run (calls ++ [.update (some e)])).documents.filter (Collection.hasId id) =
          (c.run calls).documents.filter (Collection.hasId id)
  /-- A deletion returns, unbinds its id, and leaves the documents of all other ids. -/
  delete : ∀ calls, (∀ x ∈ calls, x.Routine) → ∀ i, IsTerm i → i ≠ "" →
    ((Call.delete (.text i)).action.outcome (c.run calls)).1 = .ok () ∧
      (c.run (calls ++ [.delete (.text i)])).documents.filter (Collection.hasId i) = [] ∧
      ∀ id, IsTerm id → id ≠ i →
        (c.run (calls ++ [.delete (.text i)])).documents.filter (Collection.hasId id) =
          (c.run calls).documents.filter (Collection.hasId id)
  /-- The two leave the store, -/
  store : ∀ calls x, x.target?.isSome → (c.run (calls ++ [x])).store = (c.run calls).store
  /-- they change nothing more when they are repeated, -/
  repeated : ∀ calls, (∀ x ∈ calls, x.Routine) → ∀ x : Call, x.Routine → x.target?.isSome →
    (c.run (calls ++ [x, x])).documents = (c.run (calls ++ [x])).documents
  /-- and on different ids they commute. -/
  commuting : ∀ calls, (∀ x ∈ calls, x.Routine) → ∀ x y : Call, x.Routine → y.Routine →
    ∀ i j, x.target? = some i → y.target? = some j → i ≠ j →
      (c.run (calls ++ [x, y])).documents.Perm (c.run (calls ++ [y, x])).documents
  /-- Nothing counts but the last call that concerns each id. -/
  last : ∀ calls calls', (∀ x ∈ calls, x.Routine) → (∀ x ∈ calls', x.Routine) →
    (∀ id, IsTerm id → bound calls id = bound calls' id) →
      (c.run calls).documents.Perm (c.run calls').documents

section Maps

variable {calls calls' : List Call} {x y : Call} (hc : c.desk.Settled {})

include hc

/-- The documents after routine calls are what the calls do to no documents, one after the other. -/
theorem documents_run (hcalls : ∀ x ∈ calls, x.Routine) :
    (c.run calls).documents = calls.foldl (fun ds x => x.effect ds) [] := by
  obtain ⟨k', hk', hlive⟩ := settled_run hc hcalls
  rw [documents, hk'.seen, hlive]

/-- They are what the calls bind, under each id. -/
theorem keyed_run (hcalls : ∀ x ∈ calls, x.Routine) :
    Keyed (bound calls) (c.run calls).documents := by
  rw [documents_run hc hcalls]
  exact keyed_foldl hcalls

/-- What has an id after one more call. -/
theorem filter_run_concat (hcalls : ∀ x ∈ calls, x.Routine) (hx : x.Routine) {id : String}
    (hid : IsTerm id) : (c.run (calls ++ [x])).documents.filter (Collection.hasId id) =
      ((x.binds id).getD (bound calls id)).toList := by
  have hall : ∀ y ∈ calls ++ [x], y.Routine :=
    List.forall_mem_append.mpr ⟨hcalls, List.forall_mem_singleton.mpr hx⟩
  rw [(keyed_run hc hall).filtered id hid, bound_concat]

/-- A call that is aimed at one id leaves the documents with another one. -/
theorem filter_run_of_ne (hcalls : ∀ x ∈ calls, x.Routine) (hx : x.Routine) {id i : String}
    (hid : IsTerm id) (htarget : x.target? = some i) (hne : id ≠ i) :
    (c.run (calls ++ [x])).documents.filter (Collection.hasId id) =
      (c.run calls).documents.filter (Collection.hasId id) := by
  rw [filter_run_concat hc hcalls hx hid, binds_of_ne htarget hne, Option.getD_none,
    (keyed_run hc hcalls).filtered id hid]

/-- A catalogue whose index has no documents, and whose engine fails nowhere, is a map. -/
theorem maps_of_settled : c.Maps where
  unique calls hcalls :=
    ⟨fun d hd => (keyed_run hc hcalls).exists_id hd, (keyed_run hc hcalls).filtered⟩
  update calls hcalls e hid he := by
    have hx : (Call.update (some e)).Routine := by
      rintro _ ⟨⟩
      exact hid
    obtain ⟨k, hk, -⟩ := settled_run hc hcalls
    refine ⟨(hk.update e).1.mpr he, ?_, fun id hid' hne => filter_run_of_ne hc hcalls hx hid' rfl hne⟩
    rw [filter_run_concat hc hcalls hx hid, Call.binds, if_pos ⟨rfl, he⟩]
    rfl
  delete calls hcalls i hid hi := by
    have hx : (Call.delete (.text i)).Routine := by
      rintro _ ⟨⟩
      exact hid
    obtain ⟨k, hk, -⟩ := settled_run hc hcalls
    refine ⟨(hk.delete hi).1, ?_, fun id hid' hne => filter_run_of_ne hc hcalls hx hid' rfl hne⟩
    rw [filter_run_concat hc hcalls hx hid, Call.binds, if_pos ⟨rfl, hi⟩]
    rfl
  store calls x hx := by
    obtain ⟨id, hid⟩ := Option.isSome_iff_exists.mp hx
    rw [run, List.foldl_concat]
    rcases Call.of_target? hid with ⟨e, rfl, -⟩ | rfl
    · rfl
    · rfl
  repeated calls hcalls x hx htarget := by
    obtain ⟨id, hid⟩ := Option.isSome_iff_exists.mp htarget
    have hone : ∀ y ∈ calls ++ [x], y.Routine := by
      simpa [or_imp, forall_and] using ⟨hcalls, hx⟩
    have htwo : ∀ y ∈ calls ++ [x, x], y.Routine := by
      simpa [or_imp, forall_and] using ⟨hcalls, hx⟩
    rw [documents_run hc hone, documents_run hc htwo, List.foldl_append, List.foldl_append]
    -- the effect of the last call is made twice
    exact effect_effect hx hid _
  commuting calls hcalls x y hx hy i j hi hj hne := by
    have hxy : ∀ z ∈ calls ++ [x, y], z.Routine := by
      simpa [or_imp, forall_and] using ⟨hcalls, hx, hy⟩
    have hyx : ∀ z ∈ calls ++ [y, x], z.Routine := by
      simpa [or_imp, forall_and] using ⟨hcalls, hy, hx⟩
    -- both orders bind the same, and what is bound tells the documents up to their order
    exact ((keyed_run hc hxy).congr fun id _ => bound_comm hi hj hne calls id).perm
      (keyed_run hc hyx)
  last calls calls' hcalls hcalls' hbound := by
    have hbefore := (keyed_run hc hcalls).congr hbound
    exact hbefore.perm (keyed_run hc hcalls')

end Maps

/-- **Under a catalogue the index is a map keyed by id**, from the opening of a fresh folder on. -/
theorem maps_of_fresh (shelf : Shelf) (path : Path) (index : IndexSettings) (limits : LimitSettings)
    (hopen : ((onIndex Desk.openIndex).outcome (new shelf path index limits)).1 = .ok ())
    (hfresh : Fresh shelf path) :
    ((new shelf path index limits).step .openIndex).Maps := by
  apply maps_of_settled
  exact settled_of_fresh (d := (new shelf path index limits).desk) rfl hopen hfresh

/-- A build of three elements of two ids, an update of the one id, and a deletion of the other, in a
folder that is not there. -/
theorem maps_of_fresh_pair :
    let e : Element := { id := "a", name := "Old", payload := .asset }
    let f : Element := { id := "b", name := "Other", payload := .asset }
    let g : Element := { id := "a", name := "New", payload := .member .method {} }
    let start := (new {} ⟨1, ["index"]⟩ {} {}).step .openIndex
    let calls : List Call :=
      [.build [.ok (some e), .ok (some f), .ok (some e)], .update (some g), .delete (.text "b")]
    (start.run calls).documents.filter (Collection.hasId "a") = [projection g] ∧
      (start.run calls).documents.filter (Collection.hasId "b") = [] := by
  intro e f g start calls
  -- only the opening and what is bound at the end are computed; the run between them is the general
  -- result
  have hopen : ((onIndex Desk.openIndex).outcome (new {} ⟨1, ["index"]⟩ {} {})).1 = .ok () := by
    decide +kernel
  have hfresh : Fresh {} ⟨1, ["index"]⟩ :=
    fun _ place _ => if_neg (append_singleton_ne_nil place _)
  have hmaps : start.Maps := maps_of_fresh {} ⟨1, ["index"]⟩ {} {} hopen hfresh
  have hcalls : ∀ x ∈ calls, x.Routine := by
    intro x hx
    simp only [calls, List.mem_cons, List.not_mem_nil, or_false] at hx
    rcases hx with rfl | rfl | rfl
    · have hids : ∀ x ∈ [e, f, e], IsTerm x.id := by decide
      exact hids
    · rintro _ ⟨⟩
      decide
    · rintro _ ⟨⟩
      decide
  obtain ⟨-, hunique⟩ := hmaps.unique calls hcalls
  have ha : bound calls "a" = some (projection g) := by decide +kernel
  have hb : bound calls "b" = none := by decide +kernel
  refine ⟨?_, ?_⟩
  · rw [hunique "a" (by decide), ha]
    rfl
  · rw [hunique "b" (by decide), hb]
    rfl

end CodeCatalog.Catalog
