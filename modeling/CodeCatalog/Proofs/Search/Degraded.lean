/-
Reads that something comes in the way of.

A read asks first whether the handle is open, then makes the last commit visible if that is due, and
then looks at a snapshot. Before each of the last two others may close the handle, and each of them,
like the search itself and the documents that it comes upon, may fail. `readDisturbed` is a read with
all of that, and the read itself is the one that nothing disturbs.

Whatever comes in the way, a search ends with nothing found. It never fails as long as the faults are
those of files and values, and it takes nothing with it: the files, the last commit and the snapshots
that are held stay as they are (`Unharmed`). Counting is not as careful. It takes a closing in its
stride, but a snapshot that the engine refuses gets out of it.
-/
import CodeCatalog.Proofs.Element.Reading
import CodeCatalog.Proofs.Search.Atomicity
import CodeCatalog.Proofs.Search.Conjunction

set_option autoImplicit false

namespace CodeCatalog.Search

open Act Desk Log

/-! ## Disturbances

While a search runs, others may close the readers or the handle between any two of its steps, and
faults may strike its look-up. A disturbance says where and what. -/

/-- What others do to a handle while something else is under way. -/
inductive Meddling
  | nothing
  /-- They are about to close it, and its readers are closed already. -/
  | closing
  /-- They close it, however that ends for them. -/
  | closed
  deriving Repr, DecidableEq

namespace Meddling

def action : Meddling → IndexAct Unit
  | nothing => return ()
  | closing => closeReaders
  | closed => discard (Act.attempt closeIndex)

/-- Whether the handle serves no reader after it. -/
def closes : Meddling → Bool
  | nothing => false
  | closing => true
  | closed => true

end Meddling

/-- What comes in the way of a read: what others do before its refresh and before its snapshot, and
a fault of the search. -/
structure Disturbance where
  before : Meddling := .nothing
  after : Meddling := .nothing
  search : Option Fault := none

namespace Desk

/-- What a snapshot finds, if no fault strikes the search. -/
def lookUpStruck (fault : Option Fault) (clauses : List Clause) (limit : Json.Value)
    (c : Collection) : Except Failure (List Summary) :=
  match fault with
  | some f => .error (.fault f)
  | none => lookUp clauses limit c

/-- The guarded part of a search that is disturbed. -/
def searchDisturbed (x : Disturbance) (clauses : Except Fault (Option (List Clause)))
    (limit : Json.Value) : IndexAct (List Summary) := do
  match clauses with
  | .error f => Act.fail f
  | .ok none => return []
  | .ok (some cs) =>
    x.before.action
    refreshIfDue
    x.after.action
    onEngine closedMeanwhile (Watched.withSnapshot (lookUpStruck x.search cs limit))

/-- A read with something else as its guarded part. -/
def readGuarding (guarded : IndexAct (List Summary)) (r : Read) : IndexAct (List Summary) := do
  let operationContext : Json.Fields := [("operation", .text r.operation)]
  if !(← get).index.isOpen then
    emit .warning "search_on_closed_index" (operationContext ++ r.context)
    return []
  else if !(← Act.ofFault (Limit.hasRoom r.limit)) then
    return []
  else
    emit .debug r.operation ([("max_results", r.limit)] ++ r.context)
    match ← Act.attempt guarded with
    | .ok found => return found
    | .error (.catalog _) =>
      emit .warning "search_on_closed_index" (operationContext ++ r.context)
      return []
    | .error (.fault f) =>
      if f.isFileOrValue then
        emit .error "search_failed"
          (operationContext ++ [("error", .text f.message)] ++ r.context)
        return []
      else Act.fail f

/-- Carry out a read while it is disturbed. -/
def readDisturbed (x : Disturbance) (r : Read) : IndexAct (List Summary) :=
  readGuarding (searchDisturbed x r.clauses r.limit) r

/-- Count the documents while others meddle with the handle. -/
def docCountDisturbed (m : Meddling) : IndexAct Nat := do
  if !(← get).index.isOpen then return 0
  m.action
  let count ← Act.attempt
    (onEngine closedMeanwhile (Watched.withSnapshot fun c => .ok c.live.length))
  match count with
  | .ok n => return n
  | .error (.catalog _) => return 0
  | .error (.fault f) => Act.fail f

/-- A read that nothing disturbs is a read. -/
theorem readDisturbed_nothing (r : Read) : readDisturbed {} r = read r := rfl

theorem docCountDisturbed_nothing : docCountDisturbed .nothing = docCount := rfl

/-! ## What is left

Reading takes nothing away even then: what is committed stays, and each snapshot that was taken is
given back. -/

variable {d t u : Desk} {c : Call} {m : Meddling}

/-- **Nothing is taken away**: the files are the same, and so are the last commit and the number of
snapshots that are held, if the handle is still open. -/
structure Unharmed (d t : Desk) : Prop where
  files : t.shelf.files = d.shelf.files
  session : ∀ s', t.index.session = some s' → ∃ s, d.index.session = some s ∧
    s'.engine.source.committed = s.engine.source.committed ∧
    s'.engine.readers.active = s.engine.readers.active

theorem Unharmed.refl (d : Desk) : Unharmed d d :=
  ⟨rfl, fun s hs => ⟨s, hs, rfl, rfl⟩⟩

/-- What two steps leave alone both leave alone. -/
theorem Unharmed.trans (h : Unharmed d t) (h' : Unharmed t u) : Unharmed d u := by
  refine ⟨h'.files.trans h.files, fun s'' hs'' => ?_⟩
  obtain ⟨s', hs', hcommitted', hactive'⟩ := h'.session s'' hs''
  obtain ⟨s, hs, hcommitted, hactive⟩ := h.session s' hs'
  exact ⟨s, hs, hcommitted'.trans hcommitted, hactive'.trans hactive⟩

/-- The handle serves no reader: it is not open, or its readers are closed. -/
def Shut (d : Desk) : Prop :=
  ∀ s, d.index.session = some s → s.engine.readers.closed = true

/-- If the engine of the handle refuses the next use of a call, then for a file or a value. -/
def Meek (c : Call) (d : Desk) : Prop :=
  ∀ s f, d.index.session = some s → s.engine.source.refusal? c = some f → f.isFileOrValue = true

/-- What others leave of a handle. The engine is not touched before the handle is closed. -/
structure Meddled (m : Meddling) (d t : Desk) : Prop where
  files : t.shelf.files = d.shelf.files
  session : ∀ s', t.index.session = some s' → ∃ s, d.index.session = some s ∧
    s'.engine.source = s.engine.source ∧ s'.engine.readers.active = s.engine.readers.active ∧
    (s.engine.readers.closed = true → s'.engine.readers.closed = true)
  shut : m.closes = true → Shut t
  same : m.closes = false → t = d

/-- Others take nothing away: they close readers, or the handle. -/
theorem Meddled.unharmed (h : Meddled m d t) : Unharmed d t := by
  refine ⟨h.files, fun s' hs' => ?_⟩
  obtain ⟨s, hs, hsource, hactive, -⟩ := h.session s' hs'
  exact ⟨s, hs, by rw [hsource], hactive⟩

/-- An engine that others have not touched refuses as it would have before. -/
theorem Meddled.meek (h : Meddled m d t) (hd : Meek c d) : Meek c t := by
  intro s' f hs' hf
  obtain ⟨s, hs, hsource, -⟩ := h.session s' hs'
  exact hd s f hs (hsource ▸ hf)

/-- A closing leaves the files as they are. -/
theorem files_closeIndex (d : Desk) : (closeIndex.outcome d).2.shelf.files = d.shelf.files := by
  rcases hs : d.index.session with _ | s
  · rw [outcome_closeIndex_closed hs]
  · rw [(stands_closeIndex (amid_of_session hs)).1]

/-- Closing the readers touches neither the engine nor the snapshots that are held. -/
theorem close_spec (w : Watched Engine) : w.close.1.source = w.source ∧
    w.close.1.readers.active = w.readers.active ∧ w.close.1.readers.closed = true := by
  rw [Watched.close]
  split
  · rename_i hclosed
    exact ⟨rfl, rfl, hclosed⟩
  · exact ⟨rfl, rfl, rfl⟩

/-- What others do comes to an end and raises nothing. -/
theorem outcome_meddling (m : Meddling) (d : Desk) :
    ∃ t, m.action.outcome d = (.ok (), t) ∧ Meddled m d t := by
  -- doing nothing harms nothing; closing leaves the source as it is, and a closed index has no
  -- session
  cases m with
  | nothing =>
    exact ⟨d, rfl, rfl, fun s hs => ⟨s, hs, rfl, rfl, id⟩, nofun, fun _ => rfl⟩
  | closing =>
    refine ⟨_, outcome_modify _ d, ?_⟩
    rcases hs : d.index.session with _ | s
    · exact ⟨rfl, fun s hs => ⟨s, hs, rfl, rfl, id⟩, fun _ s' hs' => absurd (hs.symm.trans hs') nofun,
        nofun⟩
    · refine ⟨rfl, fun s' hs' => ⟨s, hs, ?_⟩, fun _ s' hs' => ?_, nofun⟩
      · obtain rfl := Option.some.inj hs'
        obtain ⟨hsource, hactive, hclosed⟩ := close_spec s.engine
        exact ⟨hsource, hactive, fun _ => hclosed⟩
      · obtain rfl := Option.some.inj hs'
        exact (close_spec s.engine).2.2
  | closed =>
    have hclosed := session_of_closeIndex d
    refine ⟨_, outcome_discard _ _, files_closeIndex d, fun s hs => ?_, fun _ s hs => ?_, nofun⟩
    · exact absurd (hclosed.symm.trans hs) nofun
    · exact absurd (hclosed.symm.trans hs) nofun

/-! ## The steps of a read

Each step is told with what can have gone wrong before it: the readers may be closed, and the engine
may refuse. -/

/-- A failure that a read catches. -/
def Caught : Failure → Prop
  | .catalog _ => True
  | .fault f => f.isFileOrValue = true

/-- **The refresh of a search**, whatever the handle is in. -/
theorem outcome_refreshIfDue (d : Desk) : refreshIfDue.outcome d = match d.index.session with
    | none => (.error closedMeanwhile, d)
    | some s =>
      if s.engine.readers.reloads false d.now then
        (((Watched.reload d.now).outcome s.engine).1, { d with index := { d.index with
          session := some { s with engine := ((Watched.reload d.now).outcome s.engine).2 } } })
      else (.ok (), d) := by
  rw [refreshIfDue, outcome_bind, outcome_get]
  dsimp only
  rw [outcome_discard, onEngine, outcome_ofOutcome]
  -- the readers are asked only where there is a session and a refresh is due
  rcases hs : d.index.session with _ | s
  · rfl
  · dsimp only
    rw [Watched.outcome_maybeRefresh]
    split_ifs
    · rcases ((Watched.reload d.now).outcome s.engine).1 with _ | _ <;> rfl
    · show (Except.ok (), ({ d with index := { d.index with session := some s } } : Desk)) = _
      rw [← hs]

/-- A refresh harms nothing, and fails only with what is caught. It says nothing about the next use
of the searcher. -/
theorem outcomes_refreshIfDue (d : Desk) :
    Outcomes (fun t => Unharmed d t ∧ Meek .reload t ∧ Meek .searcher t) refreshIfDue
      (fun _ t => Unharmed d t ∧ Meek .searcher t) fun e t => Unharmed d t ∧ Caught e := by
  rintro t ⟨hharm, hreload, hsearcher⟩
  rw [outcome_refreshIfDue]
  -- with no session the error is one that reads catch; a reload that fails is meek by hypothesis,
  -- and one that does not spends nothing of the searcher
  rcases hs : t.index.session with _ | s
  · exact ⟨hharm, trivial⟩
  · dsimp only
    split_ifs with hdue
    · rw [Watched.outcome_reload]
      have hspent := Engine.refusal?_spend (c := .reload) (d := .searcher) (by decide) s.engine.source
      rcases hr : s.engine.source.refusal? .reload with _ | f
      · refine ⟨hharm.trans ⟨rfl, fun s' hs' => ⟨s, hs, ?_⟩⟩, fun s' f hs' hf => ?_⟩
        · obtain rfl := Option.some.inj hs'
          exact ⟨rfl, rfl⟩
        · obtain rfl := Option.some.inj hs'
          exact hsearcher s f hs (hspent.symm.trans hf)
      · refine ⟨hharm.trans ⟨rfl, fun s' hs' => ⟨s, hs, ?_⟩⟩, hreload s f hs hr⟩
        obtain rfl := Option.some.inj hs'
        exact ⟨rfl, rfl⟩
    · exact ⟨hharm, hsearcher⟩

/-- Readers that are closed make nothing visible. -/
theorem keeps_shut_refreshIfDue : Keeps Shut refreshIfDue := by
  intro d hd
  rw [outcome_refreshIfDue]
  rcases hs : d.index.session with _ | s
  · exact hd
  · have hclosed := hd s hs
    dsimp only
    rw [if_neg (by simp [Readers.reloads, hclosed])]
    exact hd

/-- What a look at a snapshot comes to. -/
def snapped {α : Type} (look : Collection → Except Failure α) (d : Desk) : Except Failure α :=
  match d.index.session with
  | none => .error closedMeanwhile
  | some s =>
    if s.engine.readers.closed then .error closedMeanwhile
    else match s.engine.source.refusal? .searcher with
      | some f => .error (.fault f)
      | none => look s.engine.source.visible

/-- Closed readers give no snapshot. -/
theorem snapped_of_shut {α : Type} (look : Collection → Except Failure α) (h : Shut d) :
    snapped look d = .error closedMeanwhile := by
  rw [snapped]
  rcases hs : d.index.session with _ | s
  · rfl
  · exact if_pos (h s hs)

/-- **The look at a snapshot** harms nothing. -/
theorem outcome_snapshot {α : Type} (look : Collection → Except Failure α) (d : Desk) :
    ∃ t, (onEngine closedMeanwhile (Watched.withSnapshot look)).outcome d = (snapped look d, t) ∧
      Unharmed d t := by
  rw [onEngine, outcome_ofOutcome, snapped]
  rcases hs : d.index.session with _ | s
  · exact ⟨d, rfl, .refl d⟩
  -- what the engine has spent is all that is changed
  have hspent : ∀ w : Watched Engine, w.source.committed = s.engine.source.committed →
      w.readers.active = s.engine.readers.active → Unharmed d
        { d with index := { d.index with session := some { s with engine := w } } } := by
    refine fun w hcommitted hactive => ⟨rfl, fun s' hs' => ⟨s, hs, ?_⟩⟩
    obtain rfl := Option.some.inj hs'
    exact ⟨hcommitted, hactive⟩
  dsimp only
  rcases hclosed : s.engine.readers.closed
  · rw [Watched.outcome_withSnapshot_serving hclosed]
    rcases s.engine.source.refusal? .searcher with _ | f
    · exact ⟨_, rfl, hspent _ rfl rfl⟩
    · exact ⟨_, rfl, hspent _ rfl rfl⟩
  · rw [Watched.outcome_withSnapshot_shut hclosed]
    exact ⟨_, rfl, hspent _ rfl rfl⟩

/-- A look at a snapshot fails only with what is caught, if the look itself does. -/
theorem caught_of_snapped {α : Type} {look : Collection → Except Failure α} {e : Failure}
    (hlook : ∀ c e, look c = .error e → Caught e) (hsearcher : Meek .searcher d)
    (h : snapped look d = .error e) : Caught e := by
  rw [snapped] at h
  -- there are three ways to fail: no session, readers that are closed or refuse, and the look
  -- itself
  split at h
  · rw [← Except.error.inj h]
    trivial
  · rename_i s hs
    split_ifs at h
    · rw [← Except.error.inj h]
      trivial
    · split at h
      · rename_i f hf
        rw [← Except.error.inj h]
        exact hsearcher s f hs hf
      · exact hlook _ e h

/-- A look at a snapshot fails in ways that a read catches, if what it looks for does, and the
snapshot is given back either way. -/
theorem outcomes_snapshot {α : Type} {look : Collection → Except Failure α}
    (hlook : ∀ c e, look c = .error e → Caught e) (d : Desk) :
    Outcomes (fun t => Unharmed d t ∧ Meek .searcher t)
      (onEngine closedMeanwhile (Watched.withSnapshot look)) (fun _ t => Unharmed d t)
        fun e t => Unharmed d t ∧ Caught e := by
  rintro t ⟨hharm, hsearcher⟩
  obtain ⟨u, hu, hharm'⟩ := outcome_snapshot look t
  rw [hu]
  rcases hr : snapped look t with e | y
  · exact ⟨hharm.trans hharm', caught_of_snapped hlook hsearcher hr⟩
  · exact hharm.trans hharm'

/-! ## The guarded part

Everything that is raised in the guarded part is of a sort that the read catches, as long as the
disturbances are. This is where the kinds of faults are told apart. -/

/-- The first item that fails is one of the items. -/
theorem exists_of_mapM_error {ε α β : Type} {f : α → Except ε β} {xs : List α} {e : ε}
    (h : xs.mapM f = .error e) : ∃ x ∈ xs, f x = .error e := by
  -- the first element that is refused is the one whose error comes out
  induction xs with
  | nil => exact absurd h nofun
  | cons x xs ih =>
    rw [List.mapM_cons] at h
    rcases hx : f x with e' | y
    · rw [hx] at h
      exact ⟨x, List.mem_cons_self, by rw [hx, Except.error.inj h]⟩
    · rw [hx] at h
      rcases hxs : xs.mapM f with e' | ys
      · rw [hxs] at h
        obtain ⟨z, hz, hfail⟩ := ih (by rw [hxs, Except.error.inj h])
        exact ⟨z, List.mem_cons_of_mem _ hz, hfail⟩
      · rw [hxs] at h
        exact absurd h nofun

/-- Where several things succeed together, each of them does. -/
theorem exists_of_mapM_ok {ε α β : Type} {f : α → Except ε β} {xs : List α} {ys : List β}
    (h : xs.mapM f = .ok ys) : ∀ x ∈ xs, ∃ y, f x = .ok y := by
  induction xs generalizing ys with
  | nil => exact fun _ hx => absurd hx List.not_mem_nil
  | cons x xs ih =>
    obtain ⟨y, zs, hy, hzs, -⟩ := mapM_cons_ok.mp h
    exact List.forall_mem_cons.mpr ⟨⟨y, hy⟩, ih hzs⟩

/-- A document without a kind is a wrong value. -/
theorem isFileOrValue_of_kind {doc : Document} {f : Fault} (h : doc.kind = .error f) :
    f.isFileOrValue = true := by
  rw [Document.kind] at h
  split at h
  · rw [← Except.error.inj h]; rfl
  · rw [← Except.error.inj h]; rfl
  · split at h
    · cases h
    · rw [← Except.error.inj h]; rfl

/-- A document without a line is a wrong value. -/
theorem isFileOrValue_of_lineNumber {doc : Document} {f : Fault} (h : doc.lineNumber = .error f) :
    f.isFileOrValue = true := by
  rw [Document.lineNumber] at h
  split at h
  · cases h
  · cases h
  · split at h
    · cases h
    · rw [← Except.error.inj h]; rfl
    · rw [← Except.error.inj h]; rfl

/-- A document that has no summary fails for a value that it stores. -/
theorem isFileOrValue_of_summary {doc : Document} {f : Fault} (h : doc.summary = .error f) :
    f.isFileOrValue = true := by
  rw [Document.summary] at h
  -- a document without a kind is refused first, one without a line second
  rcases hkind : doc.kind with f' | k
  · rw [hkind] at h
    rw [← Except.error.inj h]
    exact isFileOrValue_of_kind hkind
  · rw [hkind] at h
    rcases hline : doc.lineNumber with f' | n
    · rw [hline] at h
      rw [← Except.error.inj h]
      exact isFileOrValue_of_lineNumber hline
    · rw [hline] at h
      cases h

/-- A look-up in a limit that fits fails in ways that a read catches. -/
theorem caught_of_lookUp {clauses : List Clause} {limit : Json.Value} {n : Nat} {c : Collection}
    {e : Failure} (hlimit : Limit.word limit = .ok n) (h : lookUp clauses limit c = .error e) :
    Caught e := by
  rw [lookUp, hlimit] at h
  dsimp only at h
  rw [summaries] at h
  split at h
  · cases h
  · rename_i f hf
    obtain ⟨doc, -, hdoc⟩ := exists_of_mapM_error hf
    rw [← Except.error.inj h]
    exact isFileOrValue_of_summary hdoc

variable {x : Disturbance} {limit : Json.Value} {n : Nat}

/-- So does one that is struck by a fault of that sort. -/
theorem caught_of_lookUpStruck {fault : Option Fault} {clauses : List Clause} {c : Collection}
    {e : Failure} (hfault : ∀ f, fault = some f → f.isFileOrValue = true)
    (hlimit : Limit.word limit = .ok n) (h : lookUpStruck fault clauses limit c = .error e) :
    Caught e := by
  rcases fault with _ | f
  · exact caught_of_lookUp hlimit h
  · rw [← Except.error.inj h]
    exact hfault f rfl

/-- What others do harms nothing, and tells nothing new of the engine. -/
theorem outcomes_meddling (m : Meddling) (d : Desk) {P : Desk → Prop}
    (hP : ∀ t u, P t → Meddled m t u → P u) (E : Failure → Desk → Prop) :
    Outcomes (fun t => Unharmed d t ∧ P t) m.action (fun _ t => Unharmed d t ∧ P t) E := by
  rintro t ⟨hharm, ht⟩
  obtain ⟨u, hu, hmeddled⟩ := outcome_meddling m t
  rw [hu]
  exact ⟨hharm.trans hmeddled.unharmed, hP t u ht hmeddled⟩

/-- The guarded part of a search whose query is made harms nothing, and fails only with what is
caught. -/
theorem outcomes_searchDisturbed (hsearch : ∀ f, x.search = some f → f.isFileOrValue = true)
    (hlimit : Limit.word limit = .ok n) (clauses : Option (List Clause)) (d : Desk) :
    Outcomes (fun t => Unharmed d t ∧ Meek .reload t ∧ Meek .searcher t)
      (searchDisturbed x (.ok clauses) limit) (fun _ t => Unharmed d t)
      fun e t => Unharmed d t ∧ Caught e := by
  rcases clauses with _ | cs
  · exact Outcomes.pure fun t ht => ht.1
  · refine (outcomes_meddling x.before d (fun t u ht hu => ⟨hu.meek ht.1, hu.meek ht.2⟩) _).bind
      fun _ => (outcomes_refreshIfDue d).bind fun _ => ?_
    refine (outcomes_meddling x.after d (fun t u ht hu => hu.meek ht) _).bind fun _ => ?_
    exact outcomes_snapshot (fun c e => caught_of_lookUpStruck hsearch hlimit) d

/-! ## What a search that finds something has behind it

A search can only find something if no step was disturbed in earnest. So what it found is what an
undisturbed search finds. -/

/-- A snapshot that was looked at came from open readers and a willing engine. -/
theorem exists_of_snapped {α : Type} {look : Collection → Except Failure α} {y : α}
    (h : snapped look d = .ok y) :
    ∃ s, d.index.session = some s ∧ s.engine.readers.closed = false ∧
      s.engine.source.refusal? .searcher = none ∧ look s.engine.source.visible = .ok y := by
  rw [snapped] at h
  split at h
  · exact absurd h nofun
  · rename_i s hs
    split_ifs at h with hclosed
    split at h
    · exact absurd h nofun
    · rename_i hr
      exact ⟨s, hs, Bool.eq_false_iff.mpr hclosed, hr, h⟩

/-- A refresh that succeeds was not refused, and what is visible after it is what is seen. -/
theorem exists_of_refreshIfDue {s : Session} (hs : d.index.session = some s)
    (h : refreshIfDue.outcome d = (.ok (), t)) :
    (s.engine.readers.reloads false d.now = true → s.engine.source.refusal? .reload = none) ∧
    ∃ w, t.index.session = some { s with engine := w } ∧
      w.source.refusal? .searcher = s.engine.source.refusal? .searcher ∧
      w.source.visible = d.seen := by
  rw [outcome_refreshIfDue, hs] at h
  rw [seen_of_session hs, Watched.seen]
  -- a refresh that is not due leaves the session, and one that is due must have been let through
  by_cases hdue : s.engine.readers.reloads false d.now = true
  · have hspent := Engine.refusal?_spend (c := .reload) (d := .searcher) (by decide) s.engine.source
    simp only [if_pos hdue, Watched.outcome_reload] at h
    rcases hr : s.engine.source.refusal? .reload with _ | f
    · rw [hr] at h
      rw [← (Prod.mk.inj h).2, if_pos hdue]
      exact ⟨fun _ => rfl, _, rfl, hspent, rfl⟩
    · rw [hr] at h
      cases h
  · simp only [if_neg hdue] at h
    rw [← (Prod.mk.inj h).2, if_neg hdue]
    exact ⟨fun h => absurd h hdue, s.engine, hs, rfl, rfl⟩

/-- What has not been shut by others is as it was before. -/
theorem Meddled.eq_of_not_shut (h : Meddled m d t) (ht : ¬ Shut t) : m.closes = false ∧ t = d := by
  have hcloses : m.closes = false := by
    rw [← Bool.not_eq_true]
    exact fun hm => ht (h.shut hm)
  exact ⟨hcloses, h.same hcloses⟩

/-- **A search that succeeds was not disturbed** on its way to what it found. -/
theorem undisturbed_of_ok {cs : List Clause} {found : List Summary}
    (h : (searchDisturbed x (.ok (some cs)) limit).outcome d = (.ok found, t)) :
    (x.before.closes = false ∧ x.after.closes = false) ∧
    lookUpStruck x.search cs limit d.seen = .ok found ∧
    ∃ s, d.index.session = some s ∧ s.engine.readers.closed = false ∧
      (s.engine.readers.reloads false d.now = true → s.engine.source.refusal? .reload = none) ∧
      s.engine.source.refusal? .searcher = none := by
  rw [searchDisturbed] at h
  obtain ⟨_, d₁, h₁, h⟩ := outcome_bind_ok.mp h
  obtain ⟨_, d₂, h₂, h⟩ := outcome_bind_ok.mp h
  obtain ⟨_, d₃, h₃, h⟩ := outcome_bind_ok.mp h
  obtain ⟨u, hu, -⟩ := outcome_snapshot (lookUpStruck x.search cs limit) d₃
  obtain ⟨s₃, hs₃, hopen, hsearcher, hfound⟩ :=
    exists_of_snapped (Prod.mk.inj (hu.symm.trans h)).1
  -- readers that serve at the end have served all along
  have hshut₃ : ¬ Shut d₃ := fun hshut => by rw [hshut s₃ hs₃] at hopen; exact absurd hopen nofun
  obtain ⟨u, hu, hafter⟩ := outcome_meddling x.after d₂
  obtain rfl := (Prod.mk.inj (hu.symm.trans h₃)).2
  obtain ⟨hcloses', rfl⟩ := hafter.eq_of_not_shut hshut₃
  have hshut₁ : ¬ Shut d₁ := fun hshut => hshut₃ (keeps_shut_refreshIfDue.of_outcome hshut h₂)
  obtain ⟨u, hu, hbefore⟩ := outcome_meddling x.before d
  obtain rfl := (Prod.mk.inj (hu.symm.trans h₁)).2
  obtain ⟨hcloses, rfl⟩ := hbefore.eq_of_not_shut hshut₁
  obtain ⟨s, hs, hserving⟩ : ∃ s, u.index.session = some s ∧ s.engine.readers.closed = false := by
    simpa [Shut] using hshut₁
  obtain ⟨hreload, w, hw, hspent, hvisible⟩ := exists_of_refreshIfDue hs h₂
  obtain rfl := Option.some.inj (hw.symm.trans hs₃)
  exact ⟨⟨hcloses, hcloses'⟩, hvisible ▸ hfound, s, hs, hserving, hreload, hspent ▸ hsearcher⟩

/-- **What comes in the way of a read.** -/
inductive Disturbed (x : Disturbance) (r : Read) (d : Desk) : Prop
  /-- The handle was never opened, or has been closed, or is being closed. -/
  | shut (h : Shut d)
  /-- Others close it while the read is under way. -/
  | meddled (h : x.before.closes = true ∨ x.after.closes = true)
  | search {f : Fault} (h : x.search = some f)
  /-- The engine refuses the refresh that is due. -/
  | reload {s : Session} {f : Fault} (hs : d.index.session = some s)
      (hdue : s.engine.readers.reloads false d.now = true)
      (hf : s.engine.source.refusal? .reload = some f)
  /-- The engine refuses a snapshot. -/
  | searcher {s : Session} {f : Fault} (hs : d.index.session = some s)
      (hf : s.engine.source.refusal? .searcher = some f)
  /-- A document that is found stores what is no kind. -/
  | document {cs : List Clause} {n : Nat} {doc : Document} {f : Fault}
      (hclauses : r.clauses = .ok (some cs)) (hlimit : Limit.word r.limit = .ok n)
      (hdoc : doc ∈ d.seen.search cs n) (hf : doc.kind = .error f)

/-- Summaries are made of documents that all store a kind. -/
theorem exists_kind_of_summaries {ds : List Document} {found : List Summary}
    (h : summaries ds = .ok found) : ∀ doc ∈ ds, ∃ k, doc.kind = .ok k := by
  rw [summaries] at h
  split at h
  · rename_i hds
    intro doc hdoc
    obtain ⟨y, hy⟩ := exists_of_mapM_ok hds doc hdoc
    obtain ⟨k, hk, -⟩ := exists_of_bind_ok hy
    exact ⟨k, hk⟩
  · cases h

/-- A search that is disturbed and succeeds all the same finds nothing. -/
theorem eq_nil_of_disturbed {r : Read} {found : List Summary} (hdisturbed : Disturbed x r d)
    (h : (searchDisturbed x r.clauses r.limit).outcome d = (.ok found, t)) : found = [] := by
  rcases hclauses : r.clauses with f | _ | cs
  · rw [hclauses] at h
    cases h
  · rw [hclauses] at h
    exact (Except.ok.inj (Prod.mk.inj h).1).symm
  rw [hclauses] at h
  obtain ⟨⟨hbefore, hafter⟩, hfound, s, hs, hserving, hreload, hsearcher⟩ := undisturbed_of_ok h
  -- a search that got so far met none of what disturbs it
  exfalso
  cases hdisturbed with
  | shut hshut =>
    rw [hshut s hs] at hserving
    cases hserving
  | meddled hcloses =>
    rw [hbefore, hafter] at hcloses
    exact absurd hcloses (by decide)
  | search hf =>
    rw [hf] at hfound
    cases hfound
  | reload hs' hdue hf =>
    obtain rfl := Option.some.inj (hs.symm.trans hs')
    cases (hreload hdue).symm.trans hf
  | searcher hs' hf =>
    obtain rfl := Option.some.inj (hs.symm.trans hs')
    cases hsearcher.symm.trans hf
  | document hcs hlimit hdoc hf =>
    obtain rfl := Option.some.inj (Except.ok.inj (hclauses.symm.trans hcs))
    rcases hsearch : x.search with _ | f
    · rw [hsearch] at hfound
      rw [lookUpStruck, lookUp, hlimit] at hfound
      obtain ⟨k, hk⟩ := exists_kind_of_summaries hfound _ hdoc
      cases hk.symm.trans hf
    · rw [hsearch] at hfound
      cases hfound

/-! ## Searches

Together: a disturbed search gives what an undisturbed one gives, or nothing and an event in the
log. -/

/-- A read whose arguments have the types that it asks for, with a limit that is a machine word or
leaves no room. -/
inductive Read.WellTyped : Read → Prop
  | byName (pattern : String) {limit : Int} (h : limit ≤ maxWord) :
      WellTyped (.byName (.text pattern) (.int limit))
  | byFullName (fullName : String) : WellTyped (.byFullName (.text fullName))
  | byKind (kind : Kind) {limit : Int} (h : limit ≤ maxWord) :
      WellTyped (.byKind (.text kind.name) (.int limit))
  | byParent (parentId : String) {limit : Int} (h : limit ≤ maxWord) :
      WellTyped (.byParent (.text parentId) (.int limit))
  | advanced (q : Sought) {limit : Int} (h : limit ≤ maxWord) :
      WellTyped (.advanced q.query (.int limit))

/-- A read with values of the right types has a limit that fits. -/
theorem Read.WellTyped.exists_limit {r : Read} (h : r.WellTyped) :
    ∃ n : Int, r.limit = .int n ∧ n ≤ maxWord := by
  cases h with
  | byName _ h => exact ⟨_, rfl, h⟩
  | byFullName _ => exact ⟨1, rfl, by decide⟩
  | byKind _ h => exact ⟨_, rfl, h⟩
  | byParent _ h => exact ⟨_, rfl, h⟩
  | advanced _ h => exact ⟨_, rfl, h⟩

/-- A read with values of the right types has clauses to look up. -/
theorem Read.WellTyped.exists_clauses {r : Read} (h : r.WellTyped) : ∃ cs, r.clauses = .ok cs := by
  cases h with
  | byName _ _ => exact ⟨_, rfl⟩
  | byFullName _ => exact ⟨_, rfl⟩
  | byKind kind _ =>
    refine ⟨some [.value .elementType kind.name], ?_⟩
    show Except.map _ (kindOf (.text kind.name)) = _
    rw [Sought.kindOf_name]
    rfl
  | byParent _ _ => exact ⟨_, rfl⟩
  | advanced q _ => exact ⟨_, q.clauses_advanced _⟩

/-- **A read never fails** where its guarded part fails only with what is caught, and it leaves what
that part leaves. Unless the guarded part finds something, nothing is found. -/
theorem exists_readGuarding {guarded : IndexAct (List Summary)} {r : Read} {bad : Prop}
    (hroom : ∃ room, Limit.hasRoom r.limit = .ok room)
    (hguarded : Limit.hasRoom r.limit = .ok true → ∀ log,
      Outcomes (· = { d with log := log }) guarded
        (fun found t => Unharmed d t ∧ (bad → found = [])) fun e t => Unharmed d t ∧ Caught e) :
    ∃ found t, (readGuarding guarded r).outcome d = (.ok found, t) ∧
      (bad → found = []) ∧ Unharmed d t := by
  -- what is only told in the log harms nothing
  have hlog : ∀ {t : Desk} log, Unharmed d t → Unharmed d { t with log := log } :=
    fun log ht => ⟨ht.files, ht.session⟩
  rw [readGuarding, outcome_bind, outcome_get]
  dsimp only
  rcases hopen : d.index.isOpen
  · exact ⟨[], _, rfl, fun _ => rfl, hlog _ (.refl d)⟩
  obtain ⟨room, hroom⟩ := hroom
  rw [hroom, Bool.not_true, if_neg Bool.false_ne_true]
  rcases room
  · exact ⟨[], _, rfl, fun _ => rfl, .refl d⟩
  simp only [Act.ofFault, pure_bind, Bool.not_true, Bool.false_eq_true, if_false]
  rw [emit, outcome_bind, outcome_modify]
  dsimp only
  have h := hguarded hroom _ { d with log := d.log ++
    [⟨.debug, r.operation, [("max_results", r.limit)] ++ r.context⟩] } rfl
  rw [outcome_bind, outcome_attempt]
  rcases hr : guarded.outcome { d with log := d.log ++
    [⟨.debug, r.operation, [("max_results", r.limit)] ++ r.context⟩] } with ⟨(e | f) | found, t⟩
  all_goals rw [hr] at h
  · exact ⟨[], _, rfl, fun _ => rfl, hlog _ h.1⟩
  · have hcaught : f.isFileOrValue = true := h.2
    dsimp only
    rw [if_pos hcaught]
    exact ⟨[], _, rfl, fun _ => rfl, hlog _ h.1⟩
  · exact ⟨found, t, rfl, h.2, h.1⟩

/-- What comes in the way does not depend on the log. -/
theorem Disturbed.log {r : Read} (h : Disturbed x r d) (log : List Event) :
    Disturbed x r { d with log := log } := by
  cases h with
  | shut h => exact .shut h
  | meddled h => exact .meddled h
  | search h => exact .search h
  | reload hs hdue hf => exact .reload hs hdue hf
  | searcher hs hf => exact .searcher hs hf
  | document hclauses hlimit hdoc hf => exact .document hclauses hlimit hdoc hf

/-- **A search that is disturbed** finds nothing, and harms nothing. -/
theorem exists_readDisturbed {r : Read} (hr : r.WellTyped)
    (hsearch : ∀ f, x.search = some f → f.isFileOrValue = true) (hreload : Meek .reload d)
    (hsearcher : Meek .searcher d) :
    ∃ found t, (readDisturbed x r).outcome d = (.ok found, t) ∧
      (Disturbed x r d → found = []) ∧ Unharmed d t := by
  obtain ⟨limit, hlimit, hword⟩ := hr.exists_limit
  obtain ⟨clauses, hclauses⟩ := hr.exists_clauses
  have hroom := hasRoom_int limit
  rw [← hlimit] at hroom
  refine exists_readGuarding ⟨_, hroom⟩ fun htrue log => ?_
  have hpos : 0 < limit := of_decide_eq_true (Except.ok.inj (hroom.symm.trans htrue))
  have hwords : Limit.word r.limit = .ok limit.toNat := by
    rw [hlimit]
    exact word_int hpos.le hword
  rintro t rfl
  have hstart : Unharmed d { d with log := log } := ⟨rfl, (Unharmed.refl d).session⟩
  have h := outcomes_searchDisturbed hsearch hwords clauses d { d with log := log }
    ⟨hstart, hreload, hsearcher⟩
  rw [← hclauses] at h
  -- the search does not fail, and one that is disturbed finds nothing
  rcases hs : (searchDisturbed x r.clauses r.limit).outcome { d with log := log } with
    ⟨e | found, t⟩ <;> rw [hs] at h
  · exact h
  · exact ⟨h, fun hbad => eq_nil_of_disturbed (hbad.log log) hs⟩

/-! ## Counting

A count is guarded against less than a search is; a snapshot that the engine refuses gets out of it.
-/

/-- Others leave the handle alone, and its engine refuses the snapshot for counting. -/
def SnapshotRefused (m : Meddling) (d : Desk) : Prop :=
  m.closes = false ∧ ∃ s f, d.index.session = some s ∧ s.engine.readers.closed = false ∧
    s.engine.source.refusal? .searcher = some f

/-- Closed readers refuse a snapshot before the engine could. -/
theorem SnapshotRefused.not_shut (h : SnapshotRefused m d) : ¬ Shut d := by
  obtain ⟨-, s, f, hs, hserving, -⟩ := h
  intro hshut
  rw [hshut s hs] at hserving
  exact absurd hserving nofun

/-- **Counting** harms nothing. It returns, and zero where the handle serves no reader, unless the
engine refuses it the snapshot. -/
theorem docCountDisturbed_spec (m : Meddling) (d : Desk) :
    ∃ r t, (docCountDisturbed m).outcome d = (r, t) ∧ Unharmed d t ∧
      (Shut d ∨ m.closes = true → r = .ok 0) ∧ (¬ SnapshotRefused m d → ∃ n, r = .ok n) ∧
      (SnapshotRefused m d → ∃ f, r = .error (.fault f)) := by
  rw [docCountDisturbed, outcome_bind, outcome_get]
  dsimp only
  rcases hopen : d.index.isOpen
  · have hshut : Shut d := fun s hs => absurd hs (by rw [Index.isOpen_eq_false.mp hopen]; nofun)
    exact ⟨.ok 0, d, rfl, .refl d, fun _ => rfl, fun _ => ⟨0, rfl⟩, fun h => absurd hshut h.not_shut⟩
  rw [Bool.not_true, if_neg Bool.false_ne_true]
  obtain ⟨t, ht, hmeddled⟩ := outcome_meddling m d
  obtain ⟨u, hu, hharm⟩ := outcome_snapshot (fun c => .ok c.live.length) t
  have hleft := hmeddled.unharmed.trans hharm
  rw [outcome_bind_of_ok ht, outcome_bind, outcome_attempt, hu]
  by_cases hshut : Shut t
  · rw [snapped_of_shut _ hshut]
    refine ⟨.ok 0, u, rfl, hleft, fun _ => rfl, fun _ => ⟨0, rfl⟩, fun h => ?_⟩
    rw [hmeddled.same h.1] at hshut
    exact absurd hshut h.not_shut
  · -- readers that serve have been left alone
    obtain ⟨hcloses, rfl⟩ := hmeddled.eq_of_not_shut hshut
    obtain ⟨s, hs, hserving⟩ : ∃ s, t.index.session = some s ∧ s.engine.readers.closed = false := by
      simpa [Shut] using hshut
    have hnone : ¬ (Shut t ∨ m.closes = true) := by
      rw [hcloses]
      exact fun h => h.elim hshut nofun
    simp only [snapped, hs, hserving, Bool.false_eq_true, if_false]
    rcases hr : s.engine.source.refusal? .searcher with _ | f
    · refine ⟨.ok _, u, rfl, hleft, fun h => absurd h hnone, fun _ => ⟨_, rfl⟩, ?_⟩
      rintro ⟨-, s', f, hs', -, hf⟩
      obtain rfl := Option.some.inj (hs.symm.trans hs')
      exact absurd (hr.symm.trans hf) nofun
    · exact ⟨.error (.fault f), u, rfl, hleft, fun h => absurd h hnone,
        fun h => absurd ⟨hcloses, s, f, hs, hserving, hr⟩ h, fun _ => ⟨f, rfl⟩⟩

/-! ## The policy

What holds of all reads, and the two places where a fault gets out after all. -/

/-- **Reads degrade.** In any state of a handle, whatever files and values fail below a search and
whenever others close the handle, the search returns, finds nothing if anything came in its way, and
harms nothing. Counting does the same as long as the engine gives it its snapshot. -/
theorem reads_degrade (d : Desk) (x : Disturbance)
    (hsearch : ∀ f, x.search = some f → f.isFileOrValue = true) (hreload : Meek .reload d)
    (hsearcher : Meek .searcher d) :
    (∀ r : Read, r.WellTyped → ∃ found t, (readDisturbed x r).outcome d = (.ok found, t) ∧
      (Disturbed x r d → found = []) ∧ Unharmed d t) ∧
    ∀ m, ¬ SnapshotRefused m d → ∃ n t, (docCountDisturbed m).outcome d = (.ok n, t) ∧
      (Shut d ∨ m.closes = true → n = 0) ∧ Unharmed d t := by
  refine ⟨fun r hr => exists_readDisturbed hr hsearch hreload hsearcher, fun m hm => ?_⟩
  obtain ⟨r, t, ht, hharm, hzero, hok, -⟩ := docCountDisturbed_spec m d
  obtain ⟨n, rfl⟩ := hok hm
  exact ⟨n, t, ht, fun h => Except.ok.inj (hzero h), hharm⟩

/-- A process with one element in its open index, whose engine refuses a call for want of room. -/
def withoutRoom (c : Call) : Process Unit :=
  Process.single.performAll
    [⟨(), .zero, .openIndex fun _ => none⟩,
     ⟨(), .zero, .write (.update (some { id := "a", name := "a", payload := .asset }))⟩,
     ⟨(), .zero, .tell fun d => if d = c then [some diskFull] else []⟩]

/-- A search that cannot refresh finds nothing of the one element, which stays where it is, and there
is nothing to count once the handle has been closed. -/
theorem reads_degrade_without_room :
    let d := (withoutRoom .reload).desk () .zero
    let r : Read := .byKind (.text Kind.other.name) (.int 10)
    r.WellTyped ∧ Disturbed {} r d ∧ Meek .reload d ∧ Meek .searcher d ∧
      (∃ t, (readDisturbed {} r).outcome d = (.ok [], t) ∧ Unharmed d t) ∧
      ¬ SnapshotRefused .closed d ∧
      ∃ t, (docCountDisturbed .closed).outcome d = (.ok 0, t) ∧ Unharmed d t := by
  intro d r
  obtain ⟨s, hs, hdue, hreload, hsearcher⟩ : ∃ s, d.index.session = some s ∧
      s.engine.readers.reloads false d.now = true ∧
      s.engine.source.refusal? .reload = some diskFull ∧
      s.engine.source.refusal? .searcher = none := ⟨_, rfl, rfl, rfl, rfl⟩
  have htyped : r.WellTyped := .byKind .other (by decide)
  have hdisturbed : Disturbed {} r d := .reload hs hdue hreload
  -- a full disk is a failure of a file, so both calls are meek
  have hmeek : Meek .reload d := by
    intro s' f hs' hf
    obtain rfl := Option.some.inj (hs.symm.trans hs')
    rw [← Option.some.inj (hreload.symm.trans hf)]
    rfl
  have hmeek' : Meek .searcher d := by
    intro s' f hs' hf
    obtain rfl := Option.some.inj (hs.symm.trans hs')
    exact absurd (hsearcher.symm.trans hf) nofun
  have hfree : ¬ SnapshotRefused .closed d := fun h => absurd h.1 nofun
  obtain ⟨hread, hcount⟩ := reads_degrade d {} nofun hmeek hmeek'
  obtain ⟨found, t, ht, hnil, hharm⟩ := hread r htyped
  obtain ⟨n, u, hu, hzero, hharm'⟩ := hcount .closed hfree
  rw [hnil hdisturbed] at ht
  rw [hzero (.inr rfl)] at hu
  exact ⟨htyped, hdisturbed, hmeek, hmeek', ⟨t, ht, hharm⟩, hfree, u, hu, hharm'⟩

/-- Counting fails where the engine refuses the snapshot, although the fault is one of a file. -/
theorem docCount_without_room :
    (docCount.outcome ((withoutRoom .searcher).desk () .zero)).1 = .error (.fault diskFull) ∧
      diskFull.isFileOrValue = true :=
  ⟨by decide +kernel, rfl⟩

end Desk

end CodeCatalog.Search
