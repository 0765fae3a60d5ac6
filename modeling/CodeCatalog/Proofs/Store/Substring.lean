/-
Which elements a search for a part of a name finds.

The store compares names and patterns in lower case, each taken as a whole, so it finds an element
where the lower case of the pattern stands in that of the name (`Reflects.finds`). It need not stand
there though the pattern stands in the name: the two lower cases can take different forms of a
sigma. `findByNamePattern_complete` says for which names and patterns they do not, and that the
patterns which are found in every name that holds them are the settled ones. At one place of a name
nothing less will do than that the sigmas agree (`lowerWithin_eq_iff`, `marked_prefix_iff`).
-/
import CodeCatalog.Proofs.Store.History
import CodeCatalog.Proofs.Text.Within

set_option autoImplicit false

namespace CodeCatalog.Store

open Text

variable {s : Store} {h : List Element} {e : Element} {pattern : String}

/-- A search for a part of a name succeeds, and an element is among what it finds. -/
def Finds (s : Store) (pattern : String) (e : Element) : Prop :=
  ∃ found, s.findByNamePattern pattern = .ok found ∧ e ∈ found

/-- **An element is found by what its name has in lower case.** -/
theorem Reflects.finds (hs : Reflects s h) (he : e ∈ s.getAll)
    (hlower : (lower pattern).toList <:+: (lower e.name).toList) : s.Finds pattern e := by
  obtain ⟨hmem, hcurrent⟩ := hs.current_of_mem he
  refine ⟨_, hs.findByNamePattern pattern, ?_⟩
  rw [List.mem_flatMap]
  refine ⟨lower e.name, ?_, ?_⟩
  · rw [List.mem_filter, List.mem_eraseDups, decide_eq_true_eq]
    exact ⟨List.mem_map_of_mem hmem, hlower⟩
  · rw [List.mem_map]
    exact ⟨e, List.mem_filter.mpr ⟨hmem, decide_eq_true rfl⟩, hcurrent⟩

/-- A pattern stands in a name with the sigmas that it has alone: it stands there as it is, at a
place where each of its capital sigmas ends a word of the name just if it ends one of the pattern;
or it stands there once both are in lower case character by character, and the same sigmas end
words. -/
inductive StandsIn (pattern name : List Char) : Prop
  | asItIs (before after : List Char) :
      name = before ++ pattern ++ after → StandsAlike before pattern after → StandsIn pattern name
  | singly : lowerMarked [] pattern [] <:+: lowerMarked [] name [] → StandsIn pattern name

/-- A pattern that stands in a name stands there in lower case too. -/
theorem StandsIn.lower {name : String} (h : StandsIn pattern.toList name.toList) :
    (lower pattern).toList <:+: (lower name).toList := by
  rw [Text.lower, Text.lower, String.toList_ofList, String.toList_ofList]
  cases h with
  | asItIs before after hname halike =>
    rw [hname]
    exact halike.lowerChars_stands
  | singly hmarked => exact lowerChars_stands_of_marked hmarked

/-- The store of one element. -/
theorem findByNamePattern_single (e : Element) (pattern : String) :
    (after [.add (some e)]).findByNamePattern pattern =
      .ok (if (lower pattern).toList <:+: (lower e.name).toList then [e] else []) := by
  rw [(records_after [.add (some e)]).reflects.findByNamePattern]
  have hcurrent : current [e] e = e := by simp [current, current?]
  by_cases hlower : (lower pattern).toList <:+: (lower e.name).toList
  · simp [history, Call.note, hlower, hcurrent, List.eraseDups_cons]
  · simp [history, Call.note, hlower, List.eraseDups_cons]

/-- **Substring lookup.** In every store that calls can make, a search for a part of a name finds
each element in whose name the pattern stands with its own sigmas. And the patterns that are found
in every name which holds them, whatever the store, are those whose sigmas are settled. -/
theorem findByNamePattern_complete (pattern : String) :
    (∀ calls, ∀ e ∈ (after calls).getAll, StandsIn pattern.toList e.name.toList →
      (after calls).Finds pattern e) ∧
    ((∀ calls, ∀ e ∈ (after calls).getAll, pattern.toList <:+: e.name.toList →
      (after calls).Finds pattern e) ↔ Settled pattern.toList) := by
  have hfinds : ∀ calls, ∀ e ∈ (after calls).getAll, StandsIn pattern.toList e.name.toList →
      (after calls).Finds pattern e :=
    fun calls _ he hstands => (records_after calls).reflects.finds he hstands.lower
  refine ⟨hfinds, ⟨fun hall => settled_iff.mpr fun whole hwhole => ?_, ?_⟩⟩
  · -- one element of the name tells
    let e : Element := { id := "a", name := String.ofList whole, payload := .asset }
    have hname : e.name.toList = whole := String.toList_ofList
    obtain ⟨found, hfound, hmem⟩ := hall [.add (some e)] e (List.mem_singleton.mpr rfl)
      (by rw [hname]; exact hwhole)
    rw [findByNamePattern_single] at hfound
    by_cases hlower : (lower pattern).toList <:+: (lower e.name).toList
    · rwa [lower, lower, String.toList_ofList, String.toList_ofList, hname] at hlower
    · rw [if_neg hlower] at hfound
      rw [← Except.ok.inj hfound] at hmem
      exact absurd hmem List.not_mem_nil
  · rintro hsettled calls e he ⟨before, behind, hname⟩
    exact hfinds calls e he (.asItIs before behind hname.symm (hsettled before behind))

/-- Parts of a name are found, as they are and in lower case, once it has replaced another one. -/
theorem findByNamePattern_complete_renamed :
    let asset : String → Element := fun name => { id := "a", name := name, payload := .asset }
    let s := after [.add (some (asset "ΟΔΟΣ")), .add (some (asset "ΟΔΟΣΑ"))]
    s.getAll = [asset "ΟΔΟΣΑ"] ∧ s.Finds "ΟΣΑ" (asset "ΟΔΟΣΑ") ∧
      s.Finds "δοσα" (asset "ΟΔΟΣΑ") := by
  intro asset s
  have hmem : asset "ΟΔΟΣΑ" ∈ s.getAll := List.mem_singleton.mpr rfl
  -- the two halves of the result are used once each: the pattern as it stands, and letter by letter
  refine ⟨rfl, ?_, ?_⟩
  · have halike : StandsAlike "ΟΔ".toList "ΟΣΑ".toList [] :=
      lowerWithin_eq_iff.mp (by decide +kernel)
    exact (findByNamePattern_complete "ΟΣΑ").1 _ _ hmem
      (.asItIs "ΟΔ".toList [] (by decide +kernel) halike)
  · exact (findByNamePattern_complete "δοσα").1 _ _ hmem (.singly (by decide +kernel))

/-- A name is not found by a part of it that ends in a sigma though the name goes on, nor by its own
lower case taken character by character. -/
theorem findByNamePattern_misses :
    let asset : String → Element := fun name => { id := "a", name := name, payload := .asset }
    let s := fun name => after [.add (some (asset name))]
    (s "ΟΔΟΣΑ").getAll = [asset "ΟΔΟΣΑ"] ∧ "ΟΔΟΣ".toList <:+: "ΟΔΟΣΑ".toList ∧
      (s "ΟΔΟΣΑ").findByNamePattern "ΟΔΟΣ" = .ok [] ∧
    (s "ΟΔΟΣ").getAll = [asset "ΟΔΟΣ"] ∧ lowerSingly "οδοσ".toList <:+: lowerSingly "ΟΔΟΣ".toList ∧
      (s "ΟΔΟΣ").findByNamePattern "οδοσ" = .ok [] := by
  decide +kernel

end CodeCatalog.Store
