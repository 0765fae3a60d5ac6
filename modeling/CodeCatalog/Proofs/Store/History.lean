/-
What a store answers is what was added to it: `(after calls).Reflects (history calls)`.

The history of a store is the list of the elements that were added since it was last cleared. Every
index of the store is a part of that list: a bucket holds the ids of the elements that were added
with its key, and the entry of a full name holds the id of the last of them. `Records` says so for
all five maps at once, and it is what one more element keeps.

Buckets hold ids and not elements, so what is found through them is the element that the id has
now, however it was named when it was added. A look-up through a bucket could only fail on an id
that the store does not know, and every id in a bucket is the id of an element of the history.
-/
import CodeCatalog.Proofs.Store.Ledger
import CodeCatalog.Store.Basic
import Mathlib.Tactic

set_option autoImplicit false

namespace CodeCatalog.Store

/-! ## Calls and their history

The history of a store is the list of the elements that were added, oldest first. What a call adds
and whether it fails can be read off the call. -/

/-- The elements that a feed adds: those before the first that is absent or fails. -/
def added : Feed → List Element
  | .ok (some e) :: rest => e :: added rest
  | _ => []

/-- The failure that ends a feed early, if one does. -/
def feedFailure? : Feed → Option Failure
  | [] => none
  | .error f :: _ => some f
  | .ok none :: _ => some (.catalog (.missingArgument "element"))
  | .ok (some _) :: rest => feedFailure? rest

/-- A call that changes a store. -/
inductive Call
  | add (e : Option Element)
  | addAll (es : Feed)
  | clear

namespace Call

/-- The store after a call, and the failure that the call raises. -/
def run (s : Store) : Call → Store × Option Failure
  | add e => match s.add e with
    | .ok s => (s, none)
    | .error f => (s, some f)
  | addAll es => s.addAll es
  | clear => (empty, none)

/-- The history after a call. -/
def note (h : List Element) : Call → List Element
  | add none => h
  | add (some e) => h ++ [e]
  | addAll es => h ++ added es
  | clear => []

/-- The failure that a call has to raise. -/
def failure? : Call → Option Failure
  | add e => feedFailure? [.ok e]
  | addAll es => feedFailure? es
  | clear => none

end Call

/-- The store after calls on an empty one. -/
def after (calls : List Call) : Store :=
  calls.foldl (fun s c => (c.run s).1) empty

/-- The elements that calls added since the last of them that cleared the store. -/
def history (calls : List Call) : List Element :=
  calls.foldl Call.note []

/-- The last element of a history with an id. -/
def current? (h : List Element) (id : String) : Option Element :=
  (h.filter (·.id = id)).getLast?

/-- The last element of a history with the id of one of its elements. -/
def current (h : List Element) (e : Element) : Element :=
  (current? h e.id).getD e

/-! ## Reflection

A store reflects a history if each look-up is a function of it; it records the history if each of
its five maps is. The second is what calls preserve. -/

/-- **A store that answers every look-up from a history**, without failing. -/
structure Reflects (s : Store) (h : List Element) : Prop where
  getById : ∀ id, s.getById id = current? h id
  getAll : s.getAll.map some = (h.map (·.id)).eraseDups.map (current? h)
  count : s.count = (h.map (·.id)).eraseDups.length
  getByKind : ∀ k, s.getByKind k = .ok ((h.filter (·.kind = k)).map (current h))
  findByName : ∀ n, s.findByName n =
    .ok ((h.filter fun e => Text.lower e.name = Text.lower n).map (current h))
  getChildren : ∀ p, s.getChildren p = .ok ((h.filter (·.parentId = some p)).map (current h))
  findByNamePattern : ∀ p, s.findByNamePattern p =
    .ok (((h.map fun e => Text.lower e.name).eraseDups.filter fun n =>
      (Text.lower p).toList <:+: n.toList).flatMap fun n =>
        (h.filter fun e => Text.lower e.name = n).map (current h))
  getByFullName : ∀ f, s.getByFullName f =
    ((h.filter fun e => Text.lower e.fullName = Text.lower f).getLast?).map (current h)

/-- **The invariant.** Every map of the store is a part of the history. -/
structure Records (s : Store) (h : List Element) : Prop where
  ids : s.elements.keys = (h.map (·.id)).eraseDups
  elements : ∀ id, s.elements.get? id = current? h id
  byKind : ∀ k, s.byKind.bucket k = (h.filter (·.kind = k)).map (·.id)
  names : s.byName.keys = (h.map fun e => Text.lower e.name).eraseDups
  byName : ∀ n, s.byName.bucket n = (h.filter fun e => Text.lower e.name = n).map (·.id)
  byFullName : ∀ f, s.byFullName.get? f =
    ((h.filter fun e => Text.lower e.fullName = f).getLast?).map (·.id)
  byParent : ∀ p, s.byParent.bucket p = (h.filter (·.parentId = some p)).map (·.id)

variable {s : Store} {h : List Element} {e : Element}

/-! ## One more element

Adding one element changes each map at one key. This is the step of the induction. -/

/-- The last element of a part of a history, after one more. -/
theorem getLast?_filter_concat (p : Element → Bool) :
    ((h ++ [e]).filter p).getLast? = if p e then some e else (h.filter p).getLast? := by
  rw [List.filter_append]
  by_cases he : p e
  · rw [List.filter_cons_of_pos he, if_pos he, List.filter_nil, List.getLast?_concat]
  · rw [List.filter_cons_of_neg he, if_neg he, List.filter_nil, List.append_nil]

/-- The ids of a part of a history, after one more element. -/
theorem map_filter_concat (p : Element → Bool) :
    ((h ++ [e]).filter p).map (·.id) =
      if p e then (h.filter p).map (·.id) ++ [e.id] else (h.filter p).map (·.id) := by
  rw [List.filter_append]
  by_cases he : p e
  · rw [List.filter_cons_of_pos he, if_pos he, List.filter_nil, List.map_append]
    rfl
  · rw [List.filter_cons_of_neg he, if_neg he, List.filter_nil, List.append_nil]

/-- The distinct keys of a history, after one more element. -/
theorem keys_concat {κ : Type} [DecidableEq κ] (key : Element → κ) {keys : List κ}
    (hkeys : keys = (h.map key).eraseDups) :
    (if key e ∈ keys then keys else keys ++ [key e]) = ((h ++ [e]).map key).eraseDups := by
  rw [List.map_append, List.map_singleton, eraseDups_concat, hkeys]
  by_cases he : key e ∈ h.map key
  · rw [if_pos he, if_pos (List.mem_eraseDups.mpr he)]
  · rw [if_neg he, if_neg (fun hmem => he (List.mem_eraseDups.mp hmem))]

/-- The empty store records the empty history. -/
theorem records_empty : Records empty [] where
  ids := rfl
  elements _ := rfl
  byKind _ := rfl
  names := rfl
  byName _ := rfl
  byFullName _ := rfl
  byParent _ := rfl

/-- **The step.** A store that an element is put into records one more element. -/
theorem Records.insert (hs : Records s h) (e : Element) : Records (s.insert e) (h ++ [e]) where
  ids := by
    -- an id that is known keeps its place, a new one stands last
    rw [Store.insert, Ledger.keys_put]
    exact keys_concat (·.id) hs.ids
  elements id := by
    rw [Store.insert, Ledger.get?_put, current?, getLast?_filter_concat, hs.elements id]
    simp only [decide_eq_true_eq, current?]
  byKind k := by
    -- only the bucket of the own kind grows, by the id, which may stand in it already
    rw [Store.insert, Ledger.bucket_push, map_filter_concat, hs.byKind, hs.byKind]
    by_cases hk : e.kind = k
    · subst hk
      simp
    · simp [hk]
  names := by
    rw [Store.insert, Ledger.keys_push]
    exact keys_concat (fun e => Text.lower e.name) hs.names
  byName n := by
    rw [Store.insert, Ledger.bucket_push, map_filter_concat, hs.byName, hs.byName]
    by_cases hn : Text.lower e.name = n
    · subst hn
      simp
    · simp [hn]
  byFullName f := by
    rw [Store.insert, Ledger.get?_put, getLast?_filter_concat, hs.byFullName f]
    by_cases hf : Text.lower e.fullName = f
    · simp [hf]
    · simp [hf]
  byParent p := by
    rw [Store.insert, map_filter_concat]
    -- an element without a parent goes into no bucket
    rcases hparent : e.parentId with _ | q
    · simp only [pushParent, hparent, hs.byParent p]
      simp
    · simp only [pushParent, hparent, Ledger.bucket_push, hs.byParent]
      by_cases hq : q = p
      · subst hq
        simp
      · simp [hq]

/-! ## Calls

Any call adds some elements and may then fail, with the history of what it added. So after any calls
the store records their history. -/

/-- A feed adds its elements one after another, and what it added stays when it fails. -/
theorem Records.addAll (hs : Records s h) (es : Feed) :
    Records (s.addAll es).1 (h ++ added es) ∧ (s.addAll es).2 = feedFailure? es := by
  -- what ends a feed early adds nothing
  have hstop : ∀ {s h}, Records s h → Records s (h ++ []) := fun hs => by rwa [List.append_nil]
  induction es generalizing s h with
  | nil => exact ⟨hstop hs, rfl⟩
  | cons x rest ih =>
    rcases x with f | _ | e
    · exact ⟨hstop hs, rfl⟩
    · exact ⟨hstop hs, rfl⟩
    · have hrest := ih (hs.insert e)
      rw [List.append_assoc, List.singleton_append] at hrest
      exact hrest

/-- A feed without absences and failures adds all of its elements. -/
theorem added_map (es : List Element) : added (es.map fun e => .ok (some e)) = es := by
  induction es with
  | nil => rfl
  | cons e es ih => rw [List.map_cons, added, ih]

/-- One more call is recorded, and fails just as the history says. -/
theorem Records.run (hs : Records s h) (c : Call) :
    Records (c.run s).1 (c.note h) ∧ (c.run s).2 = c.failure? := by
  rcases c with ⟨_ | e⟩ | es | _
  · exact ⟨hs, rfl⟩
  · exact ⟨hs.insert e, rfl⟩
  · exact hs.addAll es
  · exact ⟨records_empty, rfl⟩

/-- **The run.** Whatever calls were made, the store records their history. -/
theorem records_after (calls : List Call) : Records (after calls) (history calls) := by
  have hrun : ∀ s h, Records s h →
      Records (calls.foldl (fun s c => (c.run s).1) s) (calls.foldl Call.note h) := by
    induction calls with
    | nil => exact fun s h hs => hs
    | cons c calls ih => exact fun s h hs => ih _ _ (hs.run c).1
  exact hrun empty [] records_empty

/-! ## Look-ups

The answers are worked out from the maps. An id that was found in one of them is resolved in the map
of the elements, where it always is. -/

/-- An id has no element just if none of the history has the id. -/
theorem current?_eq_none_iff {id : String} : current? h id = none ↔ ∀ e ∈ h, e.id ≠ id := by
  rw [current?, List.getLast?_eq_none_iff, List.filter_eq_nil_iff]
  simp only [decide_eq_true_eq]

/-- Every element of a history has a current one. -/
theorem current?_of_mem (he : e ∈ h) : current? h e.id = some (current h e) := by
  rcases hlast : current? h e.id with _ | d
  · exact absurd rfl (current?_eq_none_iff.mp hlast e he)
  · rw [current, hlast, Option.getD_some]

/-- Ids from a history lead to the current elements, without a failure. -/
theorem Records.resolve (hs : Records s h) {part : List Element} (hpart : ∀ e ∈ part, e ∈ h) :
    s.resolve (part.map (·.id)) = .ok (part.map (current h)) := by
  induction part with
  | nil => rfl
  | cons e part ih =>
    have he : s.getById e.id = some (current h e) := by
      rw [Store.getById, hs.elements, current?_of_mem (hpart e (by simp))]
    have ih := ih fun e he => hpart e (by simp [he])
    rw [Store.resolve] at ih ⊢
    rw [List.map_cons, List.mapM_cons, he, ih]
    rfl

/-- An element that was found in the history is told as it is now. -/
theorem Records.bind_getById (hs : Records s h) {found : Option Element}
    (hfound : ∀ e, found = some e → e ∈ h) :
    (found.map (·.id)).bind s.getById = found.map (current h) := by
  rcases found with _ | e
  · rfl
  · show s.elements.get? e.id = some (current h e)
    rw [hs.elements, current?_of_mem (hfound e rfl)]

theorem Records.resolve_filter (hs : Records s h) (p : Element → Bool) :
    s.resolve ((h.filter p).map (·.id)) = .ok ((h.filter p).map (current h)) :=
  hs.resolve fun _ he => (List.mem_filter.mp he).1

/-- A text is inside another if that has it as a stretch. -/
theorem isInside_iff (needle text : List Char) : isInside needle text ↔ needle <:+: text := by
  induction text with
  | nil =>
    rw [isInside, List.isEmpty_iff, List.infix_nil]
  | cons c text ih =>
    rw [isInside, Bool.or_eq_true, ih, List.isPrefixOf_iff_prefix, List.infix_cons_iff]

/-- A search by a pattern goes through the distinct names in their order, and through the elements
of each. -/
theorem Records.findByNamePattern (hs : Records s h) (p : String) :
    s.findByNamePattern p =
      .ok (((h.map fun e => Text.lower e.name).eraseDups.filter fun n =>
        (Text.lower p).toList <:+: n.toList).flatMap fun n =>
          (h.filter fun e => Text.lower e.name = n).map (current h)) := by
  have hnodup : s.byName.keys.Nodup := by
    rw [hs.names]
    exact nodup_eraseDups _
  -- a scan of the entries is a scan of the names, each with its part of the history
  have hscan : ∀ names : List String,
      (names.map fun n => (n, s.byName.bucket n)).mapM (fun bucket => s.resolve bucket.2) =
        .ok (names.map fun n => (h.filter fun e => Text.lower e.name = n).map (current h)) := by
    intro names
    induction names with
    | nil => rfl
    | cons n names ih =>
      rw [List.map_cons, List.mapM_cons, ih, hs.byName, hs.resolve_filter]
      rfl
  have hfilter : (fun n : String => isInside (Text.lower p).toList n.toList) =
      fun n => decide ((Text.lower p).toList <:+: n.toList) := by
    funext n
    rw [Bool.eq_iff_iff, isInside_iff, decide_eq_true_eq]
  rw [Store.findByNamePattern, Ledger.entries_eq _ hnodup, hs.names, List.filter_map]
  simp only [Function.comp_def, hfilter, hscan, bind, Except.bind, pure, Except.pure,
    List.flatMap_def]

/-- What a store records is what it answers. -/
theorem Records.reflects (hs : Records s h) : Reflects s h where
  getById := hs.elements
  getAll := by
    -- each id has one entry, so the values can be read off the keys
    have hnodup : s.elements.keys.Nodup := by
      rw [hs.ids]
      exact nodup_eraseDups _
    have hget : s.elements.get? = current? h := funext hs.elements
    rw [Store.getAll, Ledger.map_values _ hnodup, hs.ids, hget]
  count := by
    rw [Store.count, ← hs.ids, Ledger.keys, List.length_map, Ledger.size]
  getByKind k := by
    rw [Store.getByKind, hs.byKind]
    exact hs.resolve_filter _
  findByName n := by
    rw [Store.findByName, hs.byName]
    exact hs.resolve_filter _
  getChildren p := by
    rw [Store.getChildren, hs.byParent]
    exact hs.resolve_filter _
  findByNamePattern := hs.findByNamePattern
  getByFullName f := by
    rw [Store.getByFullName, hs.byFullName]
    exact hs.bind_getById fun e he => (List.mem_filter.mp (List.mem_of_getLast? he)).1

/-- What is current under an id is an element with that id. -/
theorem of_current? {id : String} (hid : current? h id = some e) : e ∈ h ∧ e.id = id := by
  simpa using List.mem_filter.mp (List.mem_of_getLast? hid)

/-- What a store lists is what it has under the id. -/
theorem Reflects.getById_of_mem (hs : Reflects s h) (he : e ∈ s.getAll) :
    s.getById e.id = some e := by
  have hmem : some e ∈ s.getAll.map some := List.mem_map_of_mem he
  rw [hs.getAll] at hmem
  obtain ⟨id, -, hid⟩ := List.mem_map.mp hmem
  obtain ⟨-, rfl⟩ := of_current? hid
  rw [hs.getById, hid]

/-- What a store lists is current, and was added. -/
theorem Reflects.current_of_mem (hs : Reflects s h) (he : e ∈ s.getAll) :
    e ∈ h ∧ current h e = e := by
  have hcurrent : current? h e.id = some e := by
    rw [← hs.getById, hs.getById_of_mem he]
  refine ⟨(of_current? hcurrent).1, ?_⟩
  rw [current, hcurrent, Option.getD_some]

/-! ## The latest elements

The elements of a store are the last ones added with each id, in the order in which the ids first
came. -/

/-- The last element with each id, in the order in which the ids first came. -/
def latest (h : List Element) : List Element :=
  (h.map (·.id)).eraseDups.filterMap (current? h)

/-- All elements are the latest with each id. -/
theorem Reflects.getAll_eq_latest (hs : Reflects s h) : s.getAll = latest h := by
  have hall := congrArg (List.filterMap id) hs.getAll
  rw [List.filterMap_map, List.filterMap_map] at hall
  exact List.filterMap_some.symm.trans hall

theorem mem_of_mem_latest (he : e ∈ latest h) : e ∈ h := by
  obtain ⟨id, -, hid⟩ := List.mem_filterMap.mp he
  exact (of_current? hid).1

/-- There are as many latest elements as ids. -/
theorem length_latest (h : List Element) :
    (latest h).length = (h.map (·.id)).eraseDups.length := by
  rw [latest, List.filterMap_length_eq_length]
  intro id hid
  obtain ⟨e, he, rfl⟩ := List.mem_map.mp (List.mem_eraseDups.mp hid)
  rw [current?_of_mem he]
  rfl

/-- Of the latest elements one has an id, if any element has it. -/
theorem filter_latest (h : List Element) (id : String) :
    (latest h).filter (·.id = id) = (current? h id).toList := by
  have hfound : ∀ i, (current? h i).filter (fun e => decide (e.id = id)) =
      if i = id then current? h id else none := by
    intro i
    rcases hi : current? h i with _ | e
    · by_cases hid : i = id
      · rw [if_pos hid, ← hid, hi]
        rfl
      · rw [if_neg hid]
        rfl
    · obtain ⟨-, rfl⟩ := of_current? hi
      by_cases hid : e.id = id
      · rw [if_pos hid, ← hid, hi]
        simp
      · rw [if_neg hid]
        simp [hid]
  rw [latest, List.filter_filterMap, funext hfound, filterMap_eq_of_nodup (nodup_eraseDups _)]
  by_cases hid : id ∈ h.map (·.id)
  · rw [if_pos (List.mem_eraseDups.mpr hid)]
  · -- an id that no element has leads to none
    rw [if_neg fun hmem => hid (List.mem_eraseDups.mp hmem)]
    rcases hnone : current? h id with _ | e
    · rfl
    · obtain ⟨he, rfl⟩ := of_current? hnone
      exact absurd (List.mem_map_of_mem he) hid

/-! ## Distinct ids

Where no id comes twice nothing is ever replaced, and each look-up gives the elements as they were
added. -/

/-- Where no two elements have the same id, each is the current one. -/
theorem current_of_nodup (hids : (h.map (·.id)).Nodup) (he : e ∈ h) : current h e = e := by
  obtain ⟨hmem, hid⟩ := of_current? (current?_of_mem he)
  exact List.inj_on_of_nodup_map hids hmem he hid

/-- Where no id came twice, each element is still as it was added. -/
theorem map_current_of_nodup (hids : (h.map (·.id)).Nodup) {part : List Element}
    (hpart : ∀ e ∈ part, e ∈ h) : part.map (current h) = part := by
  have hsame : ∀ e ∈ part, current h e = id e := fun e he => current_of_nodup hids (hpart e he)
  rw [List.map_congr_left hsame, List.map_id]

/-- **A store of distinct elements** has them all, in their order. -/
theorem Reflects.distinct (hs : Reflects s h) (hids : (h.map (·.id)).Nodup) :
    s.getAll = h ∧ (∀ k, s.getByKind k = .ok (h.filter (·.kind = k))) ∧
      ∀ p, s.getChildren p = .ok (h.filter (·.parentId = some p)) := by
  refine ⟨?_, fun k => ?_, fun p => ?_⟩
  · have hsome : ∀ e ∈ h, (current? h ∘ (·.id)) e = some e := by
      intro e he
      rw [Function.comp_apply, current?_of_mem he, current_of_nodup hids he]
    rw [hs.getAll_eq_latest, latest, eraseDups_of_nodup hids, List.filterMap_map,
      List.filterMap_congr hsome, List.filterMap_some]
  · rw [hs.getByKind, map_current_of_nodup hids fun e he => List.mem_of_mem_filter he]
  · rw [hs.getChildren, map_current_of_nodup hids fun e he => List.mem_of_mem_filter he]

/-- **A store equals its history.** After any calls, every look-up answers from the elements added
since the last clearing, and a further call raises exactly what an absent or failing element of it
has to raise. -/
theorem reflects_history (calls : List Call) :
    Reflects (after calls) (history calls) ∧ ∀ c : Call, (c.run (after calls)).2 = c.failure? :=
  ⟨(records_after calls).reflects, fun c => ((records_after calls).run c).2⟩

end CodeCatalog.Store
