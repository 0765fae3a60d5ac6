/-
What a stream holds can be written again.

The records of a stream are read as JSON and so are proper; an element that is read from a proper
record is well typed, and written as a record of its own it is read back. So the elements that a stream
holds, written one to a line, are a stream that holds just these, with no line rejected
(`Holds.again`). One of them on a line of its own is the case of one element (`Holds.line`).

A stream that was written has only texts for strings (`pairsHalves_render`), since the writer escapes
a character beyond 16 bits as both halves of its pair.
-/
import CodeCatalog.Proofs.Json.Proper
import CodeCatalog.Proofs.Stream.Contents

set_option autoImplicit false

namespace CodeCatalog.Stream

open Json

variable {fresh : Nat → String} {bytes : ByteArray} {es : List Element} {rejected : Nat}

/-- The element of a line is well typed. -/
theorem wellTyped_of_element? {freshId : String} {line : List Char} {e : Element}
    (h : element? freshId line = some e) : e.WellTyped := by
  have hline : readLine freshId line = some (.element e) := by
    rw [element?] at h
    split at h
    · rename_i e' heq
      rw [heq, Option.some.inj h]
    · cases h
  rw [readLine] at hline
  split_ifs at hline
  rcases hrecord : readChars line with error | record <;> rw [hrecord] at hline
  · cases error with
    | malformed => cases hline
    | longWhole => cases hline
    | tooDeep => cases hline
  · rcases hread : Element.ofRecord freshId record with error | e' <;> simp only [hread] at hline
    · cases hline
    · cases hline
      obtain ⟨fields, rfl, hisRead⟩ := Element.isRead_of_ofRecord hread
      -- the text of the line writes a proper record
      cases proper_of_readChars hrecord with
      | object _ hfields => exact hisRead.wellTyped hfields

/-- What a stream holds is well typed. -/
theorem Holds.wellTyped (h : Holds fresh bytes es rejected) : ∀ e ∈ es, e.WellTyped := by
  obtain ⟨text, -, -, rfl, -⟩ := h
  intro e he
  obtain ⟨⟨line, number⟩, -, helement⟩ := List.mem_filterMap.mp he
  exact wellTyped_of_element? helement

/-- Elements that were written are held, and nothing else is there. -/
theorem holds_render (hes : ∀ e ∈ es, e.WellTyped) (fresh : Nat → String) :
    Holds fresh (String.ofList (render es)).toUTF8 es 0 := by
  refine (readBytes_holds "").mpr ?_
  rw [readBytes_render hes]
  exact ⟨rfl, rfl, rfl⟩

/-- Elements that were written are texts throughout, whatever characters they have in them. -/
theorem pairsHalves_render (hes : ∀ e ∈ es, e.WellTyped) :
    PairsHalves (String.ofList (render es)).toUTF8 := by
  intro text htext line hline _ _
  rw [decode?_toUTF8] at htext
  obtain rfl := Option.some.inj htext
  rw [lines_render hes, List.mem_map] at hline
  obtain ⟨e, he, rfl⟩ := hline
  rw [elementLine, (plain_record (hes e he)).paired]
  rfl

/-- **What a stream holds, written again**, is held again, in order and with nothing rejected, whatever
ids lines without one are given now. -/
theorem Holds.again (h : Holds fresh bytes es rejected) (fresh' : Nat → String) :
    Holds fresh' (String.ofList (render es)).toUTF8 es 0 :=
  holds_render h.wellTyped fresh'

/-- One element of a stream, on a line of its own. -/
theorem Holds.line (h : Holds fresh bytes es rejected) {e : Element} (he : e ∈ es)
    (fresh' : Nat → String) :
    Holds fresh' (Json.render e.toRecord ++ "\n").toUTF8 [e] 0 := by
  have hline : Json.render e.toRecord ++ "\n" = String.ofList (render [e]) := by
    rw [Json.render, render, List.flatMap_singleton, elementLine, String.ofList_append]
  rw [hline]
  exact holds_render (List.forall_mem_singleton.mpr (h.wellTyped e he)) fresh'

end CodeCatalog.Stream
