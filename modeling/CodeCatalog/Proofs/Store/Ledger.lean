/-
The laws of a ledger: what is found under a key after a write, and in which order the keys stand.

Both writes alter the entry of one key and add it at the end where it is new. So a look-up after a
write only asks whether the keys are equal, and the keys of a ledger that was written to in some
order are the distinct keys of that order, each where it came first. As no key comes twice, the
entries can be recovered from the keys and the look-ups, which is what lets a scan of all entries be
described by them.
-/
import CodeCatalog.Store.Ledger
import Mathlib.Tactic

set_option autoImplicit false

namespace CodeCatalog

/-! ## Distinct values in the order of their first appearance

Core's `eraseDups` keeps the first of equal values. One more value at the end is dropped if it is
there already. -/

section Distinct

variable {α : Type} [DecidableEq α]

/-- A value at the end is new, or adds nothing. -/
theorem eraseDups_concat (l : List α) (a : α) :
    (l ++ [a]).eraseDups = if a ∈ l then l.eraseDups else l.eraseDups ++ [a] := by
  rw [List.eraseDups_append]
  by_cases ha : a ∈ l
  · rw [if_pos ha]
    simp [List.removeAll, ha]
  · rw [if_neg ha]
    simp [List.removeAll, ha, List.eraseDups_cons]

/-- Without its repetitions a list has none. -/
theorem nodup_eraseDups (l : List α) : l.eraseDups.Nodup := by
  -- from the end, where one more value is new or adds nothing
  induction l using List.reverseRecOn with
  | nil => exact List.nodup_nil
  | append_singleton l a ih =>
    rw [eraseDups_concat]
    split_ifs with ha
    · exact ih
    · rw [List.nodup_append]
      refine ⟨ih, List.nodup_singleton a, ?_⟩
      rintro b hb c hc rfl
      rw [List.mem_singleton.mp hc] at hb
      exact ha (List.mem_eraseDups.mp hb)

/-- A list without repetitions is kept as it is. -/
theorem eraseDups_of_nodup {l : List α} (h : l.Nodup) : l.eraseDups = l := by
  induction l using List.reverseRecOn with
  | nil => rfl
  | append_singleton l a ih =>
    obtain ⟨hl, -, hdisjoint⟩ := List.nodup_append.mp h
    have ha : a ∉ l := fun ha => hdisjoint a ha a List.mem_cons_self rfl
    rw [eraseDups_concat, if_neg ha, ih hl]

/-- Of distinct values a map that is given for one of them alone takes this one. -/
theorem filterMap_eq_of_nodup {β : Type} {l : List α} (hl : l.Nodup) (a : α) (o : Option β) :
    l.filterMap (fun x => if x = a then o else none) = if a ∈ l then o.toList else [] := by
  induction l with
  | nil => rfl
  | cons x l ih =>
    obtain ⟨hx, hl⟩ := List.nodup_cons.mp hl
    by_cases hxa : x = a
    · subst hxa
      rw [if_pos List.mem_cons_self, List.filterMap_cons, if_pos rfl, ih hl, if_neg hx]
      cases o <;> rfl
    · rw [List.filterMap_cons, if_neg hxa]
      simp only [ih hl, List.mem_cons, Ne.symm hxa, false_or]

end Distinct

namespace Ledger

variable {κ β : Type} [DecidableEq κ]

/-! ## Entries

A ledger is a list of entries whose keys stand once. Altering one key keeps the order of the others.
-/

/-- A change under one key is found there, and nothing else changes. -/
theorem lookUp_alterEntries (k l : κ) (f : Option β → β) (es : List (κ × β)) :
    lookUp l (alterEntries k f es) = if k = l then some (f (lookUp k es)) else lookUp l es := by
  induction es with
  | nil =>
    by_cases h : k = l
    · simp [alterEntries, lookUp, h]
    · simp [alterEntries, lookUp, h]
  | cons e es ih =>
    obtain ⟨m, b⟩ := e
    by_cases hm : m = k
    · -- the entry that is altered
      subst hm
      by_cases h : m = l
      · simp [alterEntries, lookUp, h]
      · simp [alterEntries, lookUp, h]
    · by_cases h : m = l
      · subst h
        simp [alterEntries, lookUp, hm, Ne.symm hm]
      · simp [alterEntries, lookUp, hm, h, ih]

/-- A key that is there keeps its place, and a new one goes to the end. -/
theorem keys_alterEntries (k : κ) (f : Option β → β) (es : List (κ × β)) :
    (alterEntries k f es).map (·.1) =
      if k ∈ es.map (·.1) then es.map (·.1) else es.map (·.1) ++ [k] := by
  induction es with
  | nil => rfl
  | cons e es ih =>
    obtain ⟨m, b⟩ := e
    -- the entry is changed where it stands, or comes last
    by_cases hm : m = k
    · simp [alterEntries, hm]
    · rw [alterEntries, if_neg hm, List.map_cons, ih]
      by_cases hk : k ∈ es.map (·.1)
      · rw [if_pos hk, if_pos (by simp [hk])]
        rfl
      · rw [if_neg hk, if_neg (by simp [hk, Ne.symm hm])]
        rfl

/-- Where keys stand once, each entry is found under its key. -/
theorem lookUp_of_mem {k : κ} {b : β} {es : List (κ × β)} (hnodup : (es.map (·.1)).Nodup)
    (h : (k, b) ∈ es) : lookUp k es = some b := by
  induction es with
  | nil => exact absurd h (List.not_mem_nil)
  | cons e es ih =>
    obtain ⟨l, c⟩ := e
    rw [List.map_cons, List.nodup_cons] at hnodup
    rw [lookUp]
    -- the first entry with the key is the one that is found, and it is the only one
    by_cases hl : l = k
    · subst hl
      rcases List.mem_cons.mp h with heq | hmem
      · rw [if_pos rfl, (Prod.mk.inj heq).2]
      · exact absurd (List.mem_map_of_mem hmem) hnodup.1
    · rw [if_neg hl]
      rcases List.mem_cons.mp h with heq | hmem
      · exact absurd (Prod.mk.inj heq).1.symm hl
      · exact ih hnodup.2 hmem

/-! ## Ledgers

The same with the invariant inside: what look-ups, keys and buckets are after a change. -/

variable (m : Ledger κ β) (k l : κ) (b : β)

theorem get?_put : (m.put k b).get? l = if k = l then some b else m.get? l :=
  lookUp_alterEntries k l _ m.entries

theorem keys_put : (m.put k b).keys = if k ∈ m.keys then m.keys else m.keys ++ [k] :=
  keys_alterEntries k _ m.entries

/-- A bucket has one more value at its end, and the others stay as they are. -/
theorem bucket_push (m : Ledger κ (List β)) :
    (m.push k b).bucket l = if k = l then m.bucket k ++ [b] else m.bucket l := by
  have hget : (m.push k b).get? l = if k = l then some (m.bucket k ++ [b]) else m.get? l :=
    lookUp_alterEntries k l _ m.entries
  rw [bucket, hget]
  by_cases h : k = l
  · rw [if_pos h, if_pos h, Option.getD_some]
  · rw [if_neg h, if_neg h, bucket]

theorem keys_push (m : Ledger κ (List β)) :
    (m.push k b).keys = if k ∈ m.keys then m.keys else m.keys ++ [k] :=
  keys_alterEntries k _ m.entries

/-- The values are what is found under the keys. -/
theorem map_values (hnodup : m.keys.Nodup) : m.values.map some = m.keys.map m.get? := by
  rw [values, keys, List.map_map, List.map_map]
  exact List.map_congr_left fun e he => (lookUp_of_mem hnodup he).symm

/-- The entries of a ledger of lists are its keys with their buckets. -/
theorem entries_eq (m : Ledger κ (List β)) (hnodup : m.keys.Nodup) :
    m.entries = m.keys.map fun k => (k, m.bucket k) := by
  rw [keys, List.map_map]
  refine (List.map_id _).symm.trans (List.map_congr_left fun e he => ?_)
  have hget : m.get? e.1 = some e.2 := lookUp_of_mem hnodup he
  simp only [Function.comp, bucket, hget, Option.getD_some, id]

end Ledger

end CodeCatalog
