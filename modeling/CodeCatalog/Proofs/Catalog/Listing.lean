/-
After a build, searches list what the store has, in its order and up to their limits.

Where the ids of the elements are distinct the store loses none of them, so both the buckets of the
store and the documents of the index come in the order of the elements. A search by kind or by parent
asks for no words; its hits are not ranked, and the catalogue's limit takes the first of them. So the
search is the bucket cut off (`searches_list_stored`), for as long as nothing is written.
-/
import CodeCatalog.Proofs.Catalog.Agreement

set_option autoImplicit false

namespace CodeCatalog.Catalog

open Act Search

/-! ## Limits

A caller may give a limit or leave it to the settings. Either way it is cut to the range of limits,
so that it always fits a machine word. -/

/-- A limit that may be left out, as a caller gives it. -/
def limitValue (m : Option Int) : Json.Value :=
  m.elim .null .int

/-- The limit that counts: the given one or the default, and never more than there may be. -/
def effective (m : Option Int) (default : Int) : Int :=
  min (m.getD default) maxResults

/-- A limit that is given, or the default, is cut to the range of limits. -/
theorem clamp_limitValue (m : Option Int) (default : Int) :
    clamp (limitValue m) (.int default) = .ok (.int (effective m default)) := by
  have hclamp : ∀ (given default : Json.Value) (n : Int),
      (if given = .null then default else given) = .int n →
        Limit.clamp maxResults given default = .ok (.int (min n maxResults)) := by
    intro given default n hlimit
    rw [Limit.clamp, hlimit]
    -- the limit is cut down to the greatest one only if it is greater
    by_cases hn : maxResults < n
    · rw [Limit.exceeds?, decide_eq_true hn, min_eq_right hn.le]
    · rw [Limit.exceeds?, decide_eq_false hn, min_eq_left (not_lt.mp hn)]
  rcases m with _ | n
  · exact hclamp _ _ default rfl
  · exact hclamp _ _ n rfl

theorem effective_le_maxWord (m : Option Int) (default : Int) : effective m default ≤ maxWord :=
  (min_le_right _ _).trans (by decide)

/-! ## Settings

The default limits belong to the catalogue and are set when it is made. No call changes them, so a
search late in a run has the same defaults as one at the start. -/

section Limits

variable {limits : LimitSettings}

theorem keeps_limits_onIndex {α : Type} (a : IndexAct α) :
    Keeps (·.limits = limits) (onIndex a) :=
  fun _ hc => hc

/-- A build leaves them too. -/
theorem keeps_limits_build (es : Feed) : Keeps (·.limits = limits) (build es) := by
  have hclear : Keeps (·.limits = limits)
      (modify fun c => { c with store := .empty } : Act Catalog Unit) := Keeps.modify fun _ hc => hc
  have hfill : Keeps (·.limits = limits) (fillStore es) := fun _ hc => hc
  refine hclear.bind fun _ => hfill.bind fun _ => Keeps.get.bind fun _ => ?_
  refine (keeps_limits_onIndex _).bind fun count => ?_
  exact (keeps_limits_onIndex _).bind fun _ => Keeps.pure count

/-- No call changes the configured limits. -/
theorem keeps_limits_action (x : Call) : Keeps (·.limits = limits) x.action := by
  cases x with
  | build es => exact (keeps_limits_build es).discard
  | ask q =>
    refine Keeps.discard fun c hc => ?_
    rw [outcome_answer]
    rcases q.readOf c.limits with f | r
    · exact hc
    · exact hc
  | store s => exact Keeps.modify fun _ hc => hc
  | turn now => exact Keeps.modify fun _ hc => hc
  | _ => exact keeps_limits_onIndex _

end Limits

/-- The default limits are those that the catalogue was set up with. -/
theorem limits_run (c : Catalog) (calls : List Call) : (c.run calls).limits = c.limits := by
  induction calls generalizing c with
  | nil => rfl
  | cons x calls ih => exact (ih (c.step x)).trans (keeps_limits_action x c rfl)

/-! ## Lists

A search for a kind or for a parent has no words to rank by. So what matches is listed in the order
of the index, which is that of the elements, up to the limit. -/

section Served

variable {c : Catalog} {es : List Element}

/-- A search by kind lists the elements of that kind, in the order of the index and up to the limit.
-/
theorem search_byKind (hserved : c.desk.Served) (hlive : c.desk.seen.live = es.map projection)
    {kind : Json.Value} {k : Kind} (hkind : kindOf kind = .ok k) (m : Option Int) :
    ((search (.byKind kind (limitValue m))).outcome c).1 =
      .ok (((es.filter (·.kind = k)).take (effective m c.limits.byKind).toNat).map
        Summary.ofElement) := by
  have hread : readOf c.limits (.byKind kind (limitValue m)) =
      .ok (.byKind kind (.int (effective m c.limits.byKind))) := by
    rw [readOf, readWith, clamp_limitValue]
    rfl
  -- the catalog asks what the single read asks, with the limit already cut down
  have hanswer := outcome_answer (.ask (.byKind kind (limitValue m))) c
  rw [Question.answer, Question.readOf, hread] at hanswer
  rw [hanswer]
  exact Desk.outcome_byKind hserved hlive hkind (effective_le_maxWord _ _)

/-- A search by parent lists the elements with that parent, in the order of the index and up to the
limit. -/
theorem search_byParent (hserved : c.desk.Served) (hlive : c.desk.seen.live = es.map projection)
    {parent : String} (hshort : parent.utf8ByteSize < Document.maxValueBytes) (m : Option Int) :
    ((search (.byParent (.text parent) (limitValue m))).outcome c).1 =
      .ok (((es.filter (·.parentId = some parent)).take (effective m c.limits.byParent).toNat).map
        Summary.ofElement) := by
  have hread : readOf c.limits (.byParent (.text parent) (limitValue m)) =
      .ok (.byParent (.text parent) (.int (effective m c.limits.byParent))) := by
    rw [readOf, readWith, clamp_limitValue]
    rfl
  have hanswer := outcome_answer (.ask (.byParent (.text parent) (limitValue m))) c
  rw [Question.answer, Question.readOf, hread] at hanswer
  rw [hanswer]
  exact Desk.outcome_byParent hserved hlive hshort (effective_le_maxWord _ _)

end Served

/-- **Searches list what the store has.** After a build of elements with distinct ids, and whatever
was called before it, a search by kind or by parent gives the summaries of the first elements that the
store has of that kind or under that parent, as many as the limit says. It goes on doing so through
everything that writes nothing, as long as the index is open and its engine serves readers. -/
theorem searches_list_stored (shelf : Shelf) (path : Path) (index : IndexSettings)
    (limits : LimitSettings) (before after : List Call) (es : List Element) (n : Nat) (c : Catalog)
    (s : Session) (hids : (es.map (·.id)).Nodup)
    (hbuild : (build (es.map fun e => .ok (some e))).outcome
      ((new shelf path index limits).run before) = (.ok n, c))
    (hafter : ∀ x ∈ after, x.writes = false)
    (hs : (c.run after).desk.index.session = some s) (hserves : s.engine.source.Serves)
    (m : Option Int) :
    (∀ kind k, kindOf kind = .ok k → ∃ stored, (c.run after).store.getByKind k = .ok stored ∧
      ((search (.byKind kind (limitValue m))).outcome (c.run after)).1 =
        .ok ((stored.take (effective m limits.byKind).toNat).map Summary.ofElement)) ∧
    ∀ parent : String, parent.utf8ByteSize < Document.maxValueBytes →
      ∃ stored, (c.run after).store.getChildren parent = .ok stored ∧
        ((search (.byParent (.text parent) (limitValue m))).outcome (c.run after)).1 =
          .ok ((stored.take (effective m limits.byParent).toNat).map Summary.ofElement) := by
  obtain ⟨-, -, hrecords, place, k, hshows, hdocuments⟩ :=
    build_outcome (backed_run shelf path index limits before) hbuild
  obtain ⟨hall, hkinds, hchildren⟩ := hrecords.reflects.distinct hids
  rw [hall] at hdocuments
  -- nothing is written after the build, so the index goes on showing its documents
  obtain ⟨hstore, hshown⟩ :=
    keeps_run Desk.lasting_shows hafter (c := c) (Q := (· = c.store)) ⟨rfl, hshows⟩
  obtain ⟨hserved, hseen⟩ := served_of_shows hshown hs hserves
  have hlive : (c.run after).desk.seen.live = es.map projection := by
    rw [hseen]
    exact mapM_projection hdocuments
  have hlimits : (c.run after).limits = limits := by
    rw [limits_run]
    exact (keeps_limits_build _).of_outcome (limits_run _ before) hbuild
  refine ⟨fun kind k hk => ⟨es.filter (·.kind = k), ?_, ?_⟩,
    fun parent hp => ⟨es.filter (·.parentId = some parent), ?_, ?_⟩⟩
  · rw [hstore]
    exact hkinds k
  · rw [search_byKind hserved hlive hk m, hlimits]
  · rw [hstore]
    exact hchildren parent
  · rw [search_byParent hserved hlive hp m, hlimits]

/-- Two assets, built in a folder that is not there: with a limit of one, a search by kind gives the
first of them. -/
theorem searches_list_stored_pair :
    let e : Element := { id := "a", name := "First", payload := .asset }
    let f : Element := { id := "b", name := "Second", payload := .asset }
    let start := (new {} ⟨1, ["index"]⟩ {} {}).run [.openIndex]
    let c := ((build ([e, f].map fun e => .ok (some e))).outcome start).2
    ∃ stored, c.store.getByKind .other = .ok stored ∧
      ((search (.byKind (.text "Other") (limitValue (some 1)))).outcome c).1 =
        .ok ((stored.take 1).map Summary.ofElement) := by
  intro e f start c
  have hids : ([e, f].map (·.id)).Nodup := by decide
  have hvalue : ((build ([e, f].map fun e => .ok (some e))).outcome start).1 = .ok 2 := by
    decide +kernel
  have hbuild : (build ([e, f].map fun e => .ok (some e))).outcome start = (.ok 2, c) := by
    rw [← hvalue]
  obtain ⟨s, hs, hserves⟩ : ∃ s, c.desk.index.session = some s ∧ s.engine.source.Serves :=
    ⟨_, rfl, ⟨rfl, rfl⟩⟩
  have hafter : ∀ x ∈ ([] : List Call), x.writes = false := by simp
  -- without this the kernel would compute the catalog at every use of it
  clear_value c
  obtain ⟨hkinds, -⟩ := searches_list_stored {} ⟨1, ["index"]⟩ {} {} [.openIndex] [] [e, f] 2 c s
    hids hbuild hafter hs hserves (some 1)
  exact hkinds (.text "Other") .other (by decide)

end CodeCatalog.Catalog
