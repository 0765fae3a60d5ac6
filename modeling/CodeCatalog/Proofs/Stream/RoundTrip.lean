/-
An element stream that was written is read back whole.

The text of a record has no character in it that is not printable, so every newline of the written
text ends a record, and cutting the text into lines gives back the lines that were joined. What is
read from one of them is the element that it was written for; the rest is an induction on the
elements, and the file system, which gives back the bytes that it was given.
-/
import CodeCatalog.Proofs.Element.Record
import CodeCatalog.Proofs.Storage.Tree
import CodeCatalog.Stream.Reading
import CodeCatalog.Stream.Writing
import Mathlib.Tactic

set_option autoImplicit false

namespace CodeCatalog.Stream

open Json

/-! ## Lines

What was written ends each line with a newline and has none within, so cutting it gives the lines
back. -/

/-- A text without carriage returns has its line ends in order. -/
theorem unifyLineEnds_eq {text : List Char} (h : '\r' ∉ text) : Text.unifyLineEnds text = text := by
  -- whether a newline is kept depends on the character before it, so that is carried along
  have hgo : ∀ before, before ≠ '\r' →
      (List.zipWith Text.unifiedAfter (before :: text) text).flatten = text := by
    induction text with
    | nil => intro _ _; rfl
    | cons c text ih =>
      intro before hbefore
      rw [List.mem_cons, not_or] at h
      have hc : Text.unifiedAfter before c = [c] := by
        rw [Text.unifiedAfter, if_neg (fun hc => hbefore hc.2), if_neg (Ne.symm h.1)]
      rw [List.zipWith_cons_cons, List.flatten_cons, hc, ih h.2 c (Ne.symm h.1)]
      rfl
  exact hgo '\n' (by decide)

/-- A line that ends in its only newline is cut off. -/
theorem cutAfterNewlines_line {line : List Char} (h : '\n' ∉ line) (rest : List Char) :
    Text.cutAfterNewlines (line ++ '\n' :: rest) =
      (line ++ ['\n']) :: Text.cutAfterNewlines rest := by
  rw [Text.cutAfterNewlines, List.foldr_append]
  induction line with
  | nil => rfl
  | cons c line ih =>
    rw [List.mem_cons, not_or] at h
    rw [List.foldr_cons, ih h.2, Text.consLine, if_neg (Ne.symm h.1)]
    rfl

/-- Lines without line ends, each ended by a newline, are cut apart again. -/
theorem lines_flatMap {lines : List (List Char)} (h : ∀ l ∈ lines, '\n' ∉ l ∧ '\r' ∉ l) :
    Text.lines (lines.flatMap (· ++ ['\n'])) = lines.map (· ++ ['\n']) := by
  have hreturn : '\r' ∉ lines.flatMap (· ++ ['\n']) := by
    rw [List.mem_flatMap]
    rintro ⟨l, hl, hmem⟩
    rw [List.mem_append, List.mem_singleton] at hmem
    exact hmem.elim (h l hl).2 (by decide)
  rw [Text.lines, unifyLineEnds_eq hreturn]
  clear hreturn
  induction lines with
  | nil => rfl
  | cons l lines ih =>
    rw [List.flatMap_cons, List.append_assoc, List.singleton_append,
      cutAfterNewlines_line (h l (by simp)).1, ih fun l hl => h l (by simp [hl]), List.map_cons]

/-! ## One record

A line is the record of an element and a newline. Reading it gives the element, and never a blank or
a warning. -/

variable {e : Element} {es : List Element}

/-- The record of a well-typed element, as deep as a text may nest. -/
theorem plain_record (h : e.WellTyped) : Plain maxDepth e.toRecord :=
  Element.plain_toRecord 987 h

/-- A record is written on one line. -/
theorem not_mem_renderChars (h : e.WellTyped) :
    '\n' ∉ renderChars e.toRecord ∧ '\r' ∉ renderChars e.toRecord := by
  constructor
  · intro hmem
    exact absurd ((plain_record h).printable _ hmem) (by decide)
  · intro hmem
    exact absurd ((plain_record h).printable _ hmem) (by decide)

/-- The line that was written for an element is read as that element. -/
theorem readLine_elementLine (h : e.WellTyped) (freshId : String) :
    readLine freshId (elementLine e) = some (.element e) := by
  -- the line begins with a brace, so it is not taken for a blank one
  have hblank : (elementLine e).all Text.isBlank = false := by
    rw [elementLine, Element.toRecord_eq h.own, renderChars]
    have hbrace : Text.isBlank '{' = false := by decide
    rw [List.cons_append, List.all_cons, hbrace, Bool.false_and]
  have hend : ∀ c ∈ ['\n'], isSpace c := by
    intro c hc
    rw [List.mem_singleton.mp hc]
    decide
  have hread : readChars (elementLine e) = .ok e.toRecord :=
    readChars_renderChars (plain_record h) ['\n'] hend
  rw [readLine, hblank, hread]
  simp only [Element.ofRecord_toRecord h.own, Bool.false_eq_true, if_false]

/-! ## Whole streams

The induction on the elements, and the file that they are written to. -/

/-- The lines of a written stream are those of its elements. -/
theorem lines_render (h : ∀ e ∈ es, e.WellTyped) :
    Text.lines (render es) = es.map elementLine := by
  have hrender : render es = (es.map fun e => renderChars e.toRecord).flatMap (· ++ ['\n']) := by
    rw [List.flatMap_map]
    rfl
  rw [hrender, lines_flatMap, List.map_map]
  · rfl
  · intro l hl
    obtain ⟨e, he, rfl⟩ := List.mem_map.mp hl
    exact not_mem_renderChars (h e he)

/-- Line after line, the elements come back in order, and no line is skipped. -/
theorem readLines_map (h : ∀ e ∈ es, e.WellTyped) (path : String) (fresh : Nat → String)
    (number : Nat) :
    readLines path fresh number (es.map elementLine) = { elements := es } := by
  -- the number of a line only chooses the fresh id, and a written record needs none
  induction es generalizing number with
  | nil => rfl
  | cons e es ih =>
    have he := readLine_elementLine (h e (by simp)) (fresh number)
    have ih := ih (fun e he => h e (by simp [he])) (number + 1)
    rw [List.map_cons, readLines]
    simp only [he, ih]

/-- The bytes of a text are decoded as that text. -/
theorem decode?_toUTF8 (text : List Char) :
    decode? (String.ofList text).toUTF8 = some text := by
  have hvalid : (String.ofList text).toUTF8.IsValidUTF8 := (String.ofList text).isValidUTF8
  have htext : String.fromUTF8 (String.ofList text).toUTF8 hvalid = String.ofList text := rfl
  rw [decode?, String.fromUTF8?, dif_pos hvalid, htext, Option.map_some, String.toList_ofList]

/-- A written stream is read as its elements, and that is told once. -/
theorem readBytes_render (h : ∀ e ∈ es, e.WellTyped) (path : String) (fresh : Nat → String) :
    readBytes path fresh (String.ofList (render es)).toUTF8 =
      { elements := es, events := [loadedEvent path es.length 0] } := by
  rw [readBytes, decode?_toUTF8]
  simp only [readText, lines_render h, readLines_map h]
  rfl

/-- Elements that are all there are all written. -/
theorem write_map (es : List Element) :
    write (es.map fun e => .ok (some e)) = { text := render es, count := es.length } := by
  induction es with
  | nil => rfl
  | cons e es ih =>
    rw [List.map_cons, write, ih]
    rfl

/-- **The round trip of streams.** Wherever a stream can be written, elements are written one to a
line, and reading the file gives exactly them, whatever the file held before. -/
theorem readAt_of_writeAt {α : Type} (tree : Tree α) (folder : Place) (path : Path)
    (fresh : Nat → String) (es : List Element) (hes : ∀ e ∈ es, e.WellTyped)
    (hpath : (writeAt tree folder path []).1 = .ok 0) :
    ∃ tree', writeAt tree folder path (es.map fun e => .ok (some e)) = (.ok es.length, tree') ∧
      readAt tree' folder path fresh =
        .ok { elements := es, skipped := 0, fault := none,
              events := [loadedEvent path.text es.length 0] } := by
  -- a path that takes the bytes of an empty stream takes any bytes
  obtain ⟨u, hput⟩ : ∃ u, tree.putFileAt folder path (String.ofList []).toUTF8 = .ok u := by
    rw [writeAt] at hpath
    rcases hput : tree.putFileAt folder path (String.ofList []).toUTF8 with f | u
    · simp only [write, hput] at hpath
      exact absurd hpath nofun
    · exact ⟨u, rfl⟩
  obtain ⟨tree', hwritten, hbytes⟩ :=
    Tree.putFileAt_bytesAt hput (String.ofList (render es)).toUTF8
  refine ⟨tree', ?_, ?_⟩
  · rw [writeAt, write_map]
    simp only [hwritten]
  · rw [readAt, hbytes, Except.map, readBytes_render hes]

/-- A stream of two elements of one id, with text that has to be escaped, over an older file. -/
theorem readAt_of_writeAt_pair :
    let member : Element := {
      id := "a", name := "Grüße \"\n\u2028", parentId := some "😀"
      payload := .member .method { genericConstraints := [("T", ["class", "new()"]), ("", [])] } }
    let place : Element := { id := "a", version := -1, payload := .space {} }
    let older : Tree Unit := ⟨[(["out.jsonl"], .file "older".toUTF8)]⟩
    ∃ tree, writeAt older [] ⟨0, ["out.jsonl"]⟩ [.ok (some member), .ok (some place)] =
        (.ok 2, tree) ∧
      readAt tree [] ⟨0, ["out.jsonl"]⟩ (fun n => toString n) =
        .ok { elements := [member, place], skipped := 0, fault := none,
              events := [loadedEvent "out.jsonl" 2 0] } := by
  intro member place older
  -- quotes, line ends, separators and characters beyond the first plane are all in the two elements
  refine readAt_of_writeAt older [] ⟨0, ["out.jsonl"]⟩ (fun n => toString n) [member, place] ?_ rfl
  intro e he
  rcases List.mem_pair.mp he with rfl | rfl
  · exact ⟨rfl, by decide, by decide, by decide, by decide, by decide, by decide⟩
  · exact ⟨rfl, by decide, by decide, by decide, by decide, by decide, by decide⟩

end CodeCatalog.Stream
