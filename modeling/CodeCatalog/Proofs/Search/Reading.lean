/-
Reading changes nothing, and what a read sees.

A read writes to the log, refreshes, and looks at a snapshot. So whatever survives these three is
kept by every read, refused or not (`Steady`): that a handle is closed, that an open one shows its
last commit with nothing waiting, and any invariant that says nothing about the log.

What a search returns is looked up in what is visible after its refresh (`seen`). Where the visible
documents are those of the last commit, the refresh makes no difference, so a search sees them
whether it refreshed or not.
-/
import CodeCatalog.Proofs.Search.Finding
import CodeCatalog.Proofs.Search.Opening

set_option autoImplicit false

namespace CodeCatalog.Search.Desk

open Act Log

/-! ## What reads keep

All reading is done by few steps. A property that these keep, `Steady`, outlives every read,
whatever it finds. -/

/-- What is not lost by writing to the log, by a refresh, or by a look at a snapshot. -/
structure Steady (P : Desk → Prop) : Prop where
  log : ∀ d log, P d → P { d with log := log }
  refresh : ∀ absent now, Keeps P (onEngine absent (Watched.refresh now))
  maybeRefresh : ∀ absent force now, Keeps P (onEngine absent (Watched.maybeRefresh force now))
  look : ∀ {α : Type} absent (look : Collection → Except Failure α),
    Keeps P (onEngine absent (Watched.withSnapshot look))

variable {P : Desk → Prop} {sure : Prop} {shelf : Shelf} {base : Index} {place : Place}
  {c : Collection} {d : Desk}

/-- What says something about an engine that is calm, and nothing of the log, is steady. -/
theorem steady_of_calm (hlog : ∀ d log, P d → P { d with log := log })
    (hcalm : ∀ d s, P d → d.index.session = some s → ∃ W, Watched.Calm W ∧ W s.engine ∧
      ∀ w, W w → P { d with index := { d.index with session := some { s with engine := w } } }) :
    Steady P := by
  -- what the readers do keeps the calm of the engine, and with it the property
  have hengine : ∀ {α : Type} absent (a : Act (Watched Engine) α),
      (∀ W, Watched.Calm W → Keeps W a) → Keeps P (onEngine absent a) := by
    intro α absent a ha
    refine keeps_onEngine_of fun d s hd hs => ?_
    obtain ⟨W, hW, hrest⟩ := hcalm d s hd hs
    exact ⟨W, ha W hW, hrest⟩
  exact ⟨hlog, fun absent now => hengine absent _ fun W hW => Watched.keeps_refresh hW,
    fun absent force now => hengine absent _ fun W hW => Watched.keeps_maybeRefresh hW,
    fun absent look => hengine absent _ fun W hW => Watched.keeps_withSnapshot hW⟩

/-- An open handle that holds a collection still does after reading. -/
theorem steady_open : Steady (Holds sure shelf base place (.settled c)) where
  log _ _ h := h
  refresh _ _ := keeps_onEngine (Watched.keeps_refresh (Watched.calm_settled c))
  maybeRefresh _ _ _ := keeps_onEngine (Watched.keeps_maybeRefresh (Watched.calm_settled c))
  look _ _ := keeps_onEngine (Watched.keeps_withSnapshot (Watched.calm_settled c))

/-- A closed handle is left alone by reading. -/
theorem steady_closed (hclosed : base.session = none) : Steady (Stands shelf base) := by
  refine steady_of_calm (fun _ _ h => h) ?_
  rintro d s ⟨-, rfl⟩ hs
  rw [hclosed] at hs
  exact absurd hs nofun

namespace Steady

variable (h : Steady P)

include h

theorem emit (level : Level) (name : String) (context : Json.Fields) :
    Keeps P (emit level name context) :=
  Keeps.modify fun d hd => h.log d _ hd

theorem refreshIfDue : Keeps P refreshIfDue :=
  Keeps.get.bind fun _ => (h.maybeRefresh _ _ _).discard

/-- A search refreshes if that is due, and looks. -/
theorem searchGuarded (clauses : Except Fault (Option (List Clause))) (limit : Json.Value) :
    Keeps P (searchGuarded Desk.refreshIfDue clauses limit) := by
  rcases clauses with f | _ | cs
  · exact Keeps.fail f
  · exact Keeps.pure _
  · exact h.refreshIfDue.bind fun _ => h.look _ _

/-- **Every read keeps what is steady**, whatever it is asked and however it ends. -/
theorem read (r : Read) : Keeps P (read r) := by
  refine Keeps.get.bind fun d => Keeps.ite ((h.emit _ _ _).bind fun _ => Keeps.pure _) ?_
  refine Keeps.bind ?_ fun room => Keeps.ite (Keeps.pure _) ?_
  · rcases Limit.hasRoom r.limit with f | b
    · exact Keeps.fail f
    · exact Keeps.pure b
  refine (h.emit _ _ _).bind fun _ => (h.searchGuarded _ _).attempt.bind fun found => ?_
  rcases found with (e | f) | found
  · exact (h.emit _ _ _).bind fun _ => Keeps.pure _
  · exact Keeps.ite ((h.emit _ _ _).bind fun _ => Keeps.pure _) (Keeps.fail f)
  · exact Keeps.pure _

/-- A count looks. -/
theorem docCount : Keeps P docCount := by
  refine Keeps.get.bind fun d => Keeps.ite (Keeps.pure _) ?_
  refine (h.look _ _).attempt.bind fun count => ?_
  rcases count with (e | f) | n
  · exact Keeps.pure _
  · exact Keeps.fail f
  · exact Keeps.pure _

theorem refreshNow : Keeps P Desk.refresh :=
  Keeps.get.bind fun _ => h.refresh _ _

end Steady

/-! ## What reads see

On a handle that serves readers a read succeeds, and its result is a look-up in what the handle
sees. -/

/-- What is read from the engine of an open handle is what the engine gives. -/
theorem outcome_onEngine {α : Type} {absent : Failure} {a : Act (Watched Engine) α}
    {w : Watched Engine} (hw : d.index = { base with session := some ⟨w, place⟩ }) :
    ((onEngine absent a).outcome d).1 = (a.outcome w).1 := by
  rw [onEngine, outcome_ofOutcome, hw]

/-- What the next search of a handle sees. -/
def seen (d : Desk) : Collection :=
  match d.index.session with
  | none => {}
  | some s => s.engine.seen d.now

theorem seen_of_session {s : Session} (hs : d.index.session = some s) :
    d.seen = s.engine.seen d.now := by
  rw [seen, hs]

/-- The handle is open, its readers are at rest, and the engine refuses them nothing next. -/
def Served (d : Desk) : Prop :=
  ∃ s, d.index.session = some s ∧ s.engine.readers.AtRest ∧ s.engine.source.Serves

theorem Served.isOpen (h : d.Served) : d.index.isOpen = true := by
  obtain ⟨s, hs, -⟩ := h
  exact Index.isOpen_of_session hs

/-- Nothing of this depends on the log. -/
theorem Served.log (h : d.Served) (log : List Event) : Served { d with log := log } := h

/-- What is known of an engine may be weakened. -/
theorem Open.mono {W' : Watched Engine → Prop} {W : Watched Engine → Prop}
    (h : Open shelf base place W d) (hW : ∀ w, W w → W' w) : Open shelf base place W' d := by
  obtain ⟨hshelf, w, hw, hd⟩ := h
  exact ⟨hshelf, w, hw, hW w hd⟩

/-- A willing engine serves its readers, and where all is settled, they see the last commit. -/
theorem Open.served (h : Holds True shelf base place (.settled c) d) : d.Served ∧ d.seen = c := by
  obtain ⟨-, w, hw, hW⟩ := h
  have hs : d.index.session = some ⟨w, place⟩ := by rw [hw]
  refine ⟨⟨_, hs, hW.rest, (hW.source.willing trivial).serves⟩, ?_⟩
  rw [seen_of_session hs, hW.seen]

/-- **A search that is served looks up what is seen**, and fails only as the look-up does. -/
theorem outcome_searchGuarded (h : d.Served) (clauses : List Clause) (limit : Json.Value) :
    ((searchGuarded refreshIfDue (.ok (some clauses)) limit).outcome d).1 =
      lookUp clauses limit d.seen := by
  obtain ⟨s, hs, hrest, hserves⟩ := h
  obtain ⟨done, w, hw, hrest', hsearcher, hvisible⟩ :=
    Watched.exists_maybeRefresh hrest hserves d.now
  -- a refresh that is not due and one that succeeds come to the same here: a session that serves
  -- what is seen
  have hrefresh : refreshIfDue.outcome d =
      (.ok (), { d with index := { d.index with session := some { s with engine := w } } }) := by
    rw [refreshIfDue, outcome_bind, outcome_get]
    dsimp only
    rw [outcome_discard, onEngine, outcome_ofOutcome, hs]
    dsimp only
    rw [hw]
    rfl
  have hlook := Watched.outcome_withSnapshot hrest' (lookUp clauses limit)
  rw [hsearcher, hvisible, ← seen_of_session hs] at hlook
  rw [searchGuarded, outcome_bind_of_ok hrefresh, outcome_onEngine rfl, hlook]

section Served

variable {r : Read} {clauses : List Clause} {found : List Summary} {n : Int}

/-- A read with room for results returns what its guarded part finds, whatever is logged before. -/
theorem outcome_read_of_guarded (h : d.Served) (hroom : Limit.hasRoom r.limit = .ok true)
    (hfound : ∀ log, ((searchGuarded refreshIfDue r.clauses r.limit).outcome
      { d with log := log }).1 = .ok found) :
    ((read r).outcome d).1 = .ok found := by
  rw [read, readWith, searchWith, outcome_bind, outcome_get]
  dsimp only
  rw [h.isOpen, Bool.not_true, if_neg Bool.false_ne_true, hroom, outcome_bind]
  simp only [Act.ofFault, outcome_pure, Bool.not_true, Bool.false_eq_true, if_false]
  rw [outcome_bind, emit, outcome_modify]
  dsimp only
  rw [outcome_bind, outcome_attempt, hfound]
  rfl

/-- A read that is served returns what it looks up, where it has clauses and room for results. -/
theorem outcome_read (h : d.Served) (hclauses : r.clauses = .ok (some clauses))
    (hroom : Limit.hasRoom r.limit = .ok true)
    (hfound : lookUp clauses r.limit d.seen = .ok found) :
    ((read r).outcome d).1 = .ok found := by
  refine outcome_read_of_guarded h hroom fun log => ?_
  rw [hclauses, outcome_searchGuarded (h.log log)]
  exact hfound

/-- A read with no room for results gives none. -/
theorem outcome_read_no_room (hopen : d.index.isOpen = true)
    (hroom : Limit.hasRoom r.limit = .ok false) : ((read r).outcome d).1 = .ok [] := by
  rw [read, readWith, searchWith, outcome_bind, outcome_get]
  dsimp only
  rw [hopen, Bool.not_true, if_neg Bool.false_ne_true, hroom, outcome_bind]
  rfl

/-- A pattern without a word finds nothing, however much room there is. -/
theorem outcome_read_wordless (h : d.Served) (hclauses : r.clauses = .ok none)
    (hlimit : r.limit = .int n) : ((read r).outcome d).1 = .ok [] := by
  by_cases hn : 0 < n
  · refine outcome_read_of_guarded h ?_ fun log => ?_
    · rw [hlimit, hasRoom_int, decide_eq_true hn]
    · rw [hclauses]
      rfl
  · refine outcome_read_no_room h.isOpen ?_
    rw [hlimit, hasRoom_int, decide_eq_false hn]

/-- **A read gives as many of the hits as its limit says**, where that is a machine word. -/
theorem outcome_read_hits {hits : List Element} (h : d.Served)
    (hclauses : r.clauses = .ok (some clauses)) (hlimit : r.limit = .int n) (hword : n ≤ maxWord)
    (hhits : d.seen.hits clauses = hits.map projection) :
    ((read r).outcome d).1 = .ok ((hits.take n.toNat).map Summary.ofElement) := by
  -- a limit that leaves no room is answered without looking
  by_cases hn : 0 < n
  · refine outcome_read h hclauses ?_ ?_
    · rw [hlimit, hasRoom_int, decide_eq_true hn]
    · rw [hlimit]
      exact lookUp_hits (word_int hn.le hword) hhits
  · have hnone : n.toNat = 0 := by omega
    rw [hnone, List.take_zero]
    refine outcome_read_no_room h.isOpen ?_
    rw [hlimit, hasRoom_int, decide_eq_false hn]

/-- A search by kind gives the elements of the kind in their order. -/
theorem outcome_byKind {es : List Element} {kind : Json.Value} {k : Kind} (h : d.Served)
    (hlive : d.seen.live = es.map projection) (hkind : kindOf kind = .ok k) (hword : n ≤ maxWord) :
    ((read (.byKind kind (.int n))).outcome d).1 =
      .ok (((es.filter (·.kind = k)).take n.toNat).map Summary.ofElement) := by
  have hclauses : (Read.byKind kind (.int n)).clauses = .ok (some [.value .elementType k.name]) := by
    rw [Read.clauses, hkind]
    rfl
  rw [← matching_kind]
  exact outcome_read_hits h hclauses rfl hword (Collection.hits_in_order hlive rfl)

/-- A search by parent gives the elements that name it in their order. -/
theorem outcome_byParent {es : List Element} {parent : String} (h : d.Served)
    (hlive : d.seen.live = es.map projection)
    (hshort : parent.utf8ByteSize < Document.maxValueBytes) (hword : n ≤ maxWord) :
    ((read (.byParent (.text parent) (.int n))).outcome d).1 =
      .ok (((es.filter (·.parentId = some parent)).take n.toNat).map Summary.ofElement) := by
  rw [← matching_parentId hshort]
  exact outcome_read_hits h rfl rfl hword (Collection.hits_in_order hlive rfl)

/-- A search by full name gives the first element that has it. -/
theorem outcome_byFullName {es : List Element} {fullName : String} (h : d.Served)
    (hlive : d.seen.live = es.map projection)
    (hshort : fullName.utf8ByteSize < Document.maxValueBytes) :
    ((read (.byFullName (.text fullName))).outcome d).1 =
      .ok (((es.filter (·.fullName = fullName)).take 1).map Summary.ofElement) := by
  have hclauses : (Read.byFullName (.text fullName)).clauses =
      .ok (some [.value .fullName fullName]) := rfl
  have hlimit : (Read.byFullName (.text fullName)).limit = .int 1 := rfl
  rw [← matching_fullName hshort]
  exact outcome_read_hits h hclauses hlimit (by decide) (Collection.hits_in_order hlive rfl)

end Served

/-- A search gives nothing, or what a look-up gives. -/
theorem triple_searchGuarded (clauses : Except Fault (Option (List Clause))) (limit : Json.Value) :
    Triple False (Holds False shelf base place (.settled c))
      (searchGuarded refreshIfDue clauses limit)
        fun found _ => found = [] ∨ ∃ clauses, lookUp clauses limit c = .ok found := by
  -- a pattern without words finds nothing, and is answered before the index is asked
  rcases clauses with f | _ | clauses
  · exact Triple.fail fun _ _ => id
  · exact Triple.pure fun _ _ => .inl rfl
  have hsnap : Triple False (Holds False shelf base place (.settled c))
      (onEngine closedMeanwhile (Watched.withSnapshot (lookUp clauses limit))) _ :=
    triple_onEngine (Watched.triple_withSnapshot False.elim)
  refine (steady_open.refreshIfDue.triple).bind fun _ => hsnap.mono fun found _ h => ?_
  obtain ⟨-, w, -, hfound, -⟩ := h
  exact .inr ⟨clauses, hfound⟩

/-- What a read returns was looked up in the last commit, unless it is nothing. -/
theorem triple_read (r : Read) : Triple False (Holds False shelf base place (.settled c)) (read r)
    fun found _ => found = [] ∨ ∃ clauses, lookUp clauses r.limit c = .ok found := by
  have hnothing : ∀ {P : Desk → Prop} {level name context},
      Triple False P (do emit level name context; return []) fun found _ =>
        found = [] ∨ ∃ clauses, lookUp clauses r.limit c = .ok found := by
    intro P level name context
    have hemit : Triple False P (emit level name context) fun _ _ => True :=
      Triple.modify fun _ _ => trivial
    exact hemit.bind fun _ => Triple.pure fun _ _ => .inl rfl
  have hroom : Triple False (Holds False shelf base place (.settled c))
      (Act.ofFault (Limit.hasRoom r.limit)) fun _ => Holds False shelf base place (.settled c) := by
    rcases Limit.hasRoom r.limit with f | b
    · exact Triple.fail fun _ _ => id
    · exact Triple.pure fun _ hd => hd
  -- where the look-up fails, what is left is still as it was
  have hguarded : Triple False (Holds False shelf base place (.settled c))
      (attempt (searchGuarded refreshIfDue r.clauses r.limit)) fun result d =>
        Holds False shelf base place (.settled c) d ∧ ∀ found, result = .ok found →
          found = [] ∨ ∃ clauses, lookUp clauses r.limit c = .ok found := by
    intro d hd
    rw [outcome_attempt]
    refine ⟨steady_open.searchGuarded _ _ d hd, fun found hfound => ?_⟩
    exact (triple_searchGuarded r.clauses r.limit).ok hd (Prod.ext hfound rfl)
  refine Triple.get.bind fun d => ?_
  split_ifs
  · exact hnothing
  refine hroom.bind fun room => ?_
  split_ifs
  · exact Triple.pure fun _ _ => .inl rfl
  refine (triple_emit _ _ _).bind fun _ => hguarded.bind fun result => ?_
  rcases result with (e | f) | found
  · exact hnothing
  · dsimp only
    split_ifs
    · exact hnothing
    · exact Triple.fail fun _ _ => id
  · exact Triple.pure fun d hd => hd.2 found rfl

/-- What is counted is what is seen, unless the engine refuses to show it. -/
theorem outcome_docCount {w : Watched Engine}
    (hw : d.index = { base with session := some ⟨w, place⟩ }) (hrest : w.readers.AtRest) :
    (docCount.outcome d).1 = match w.source.refusal? .searcher with
      | some f => .error (.fault f)
      | none => .ok w.source.visible.live.length := by
  have hopen : d.index.isOpen = true := by
    rw [hw]
    rfl
  have hlook := Watched.outcome_withSnapshot hrest fun c => (.ok c.live.length : Except Failure Nat)
  rw [docCount, outcome_bind, outcome_get]
  dsimp only
  rw [hopen, Bool.not_true, if_neg Bool.false_ne_true, outcome_bind, outcome_attempt,
    outcome_onEngine hw, hlook]
  -- readers at rest are not closed, so only the engine can refuse the snapshot
  rcases w.source.refusal? .searcher with _ | f
  · rfl
  · rfl

end CodeCatalog.Search.Desk
