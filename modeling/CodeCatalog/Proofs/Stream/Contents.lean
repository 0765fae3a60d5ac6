/-
What a stream holds.

A stream that is text throughout, with lines that can all be read, is read to its end. It holds the
elements of its lines, and every other line that is not blank is rejected; both are told line by line,
without the reading. `readBytes_holds` says that a reading gives just these, and is ended early where
a stream holds nothing in this sense.

A record may escape half of a pair on its own. That is JSON, and reading goes on behind it, but the
string is no text, and what this reading has in its place stands for another string. `PairsHalves`
says that no record does.
-/
import CodeCatalog.Proofs.Json.Halves
import CodeCatalog.Proofs.Stream.Isolation

set_option autoImplicit false

namespace CodeCatalog.Stream

open Json

variable {path freshId : String} {fresh : Nat → String} {lines : List (List Char)} {number : Nat}
  {bytes : ByteArray} {es : List Element} {rejected : Nat}

/-- The element of a line, if it holds one. -/
def element? (freshId : String) (line : List Char) : Option Element :=
  match readLine freshId line with
  | some (.element e) => some e
  | _ => none

/-- The line is not blank, and holds no element. -/
def isRejected (freshId : String) (line : List Char) : Bool :=
  !line.all Text.isBlank && (element? freshId line).isNone

/-- The elements of lines of which the first has a number. -/
def accepted (fresh : Nat → String) (number : Nat) (lines : List (List Char)) : List Element :=
  (lines.zipIdx number).filterMap fun (line, n) => element? (fresh n) line

/-- How many lines are rejected. -/
def rejections (fresh : Nat → String) (number : Nat) (lines : List (List Char)) : Nat :=
  (lines.zipIdx number).countP fun (line, n) => isRejected (fresh n) line

/-- **What a stream holds.** It is a text whose lines can all be read; these are the elements that its
lines hold, and so many of the other lines are not blank. -/
def Holds (fresh : Nat → String) (bytes : ByteArray) (es : List Element) (rejected : Nat) : Prop :=
  ∃ text, decode? bytes = some text ∧ (∀ line ∈ Text.lines text, Legible line) ∧
    accepted fresh 1 (Text.lines text) = es ∧ rejections fresh 1 (Text.lines text) = rejected

/-- **The strings of a stream are texts.** No record in it escapes half of a pair on its own. -/
def PairsHalves (bytes : ByteArray) : Prop :=
  ∀ text, decode? bytes = some text → ∀ line ∈ Text.lines text, ∀ record,
    readChars line = .ok record → pairsHalves false line = true

/-- What a stream holds is unique. -/
theorem Holds.unique {es' : List Element} {rejected' : Nat} (h : Holds fresh bytes es rejected)
    (h' : Holds fresh bytes es' rejected') : es' = es ∧ rejected' = rejected := by
  obtain ⟨text, htext, -, rfl, rfl⟩ := h
  obtain ⟨text', htext', -, rfl, rfl⟩ := h'
  rw [htext] at htext'
  obtain rfl := Option.some.inj htext'
  exact ⟨rfl, rfl⟩

/-! ## Line by line

What a line holds is told without the state of a reading. A line that does not end the reading adds
just this to it. -/

/-- The elements of lines are that of the first line, if it holds one, and those of the others. -/
theorem accepted_cons (line : List Char) (rest : List (List Char)) :
    accepted fresh number (line :: rest) =
      (element? (fresh number) line).toList ++ accepted fresh (number + 1) rest := by
  rw [accepted, List.zipIdx_cons, List.filterMap_cons]
  dsimp only
  rcases element? (fresh number) line with _ | e
  · rfl
  · rfl

/-- The rejected lines are the first, if it is one, and those of the others. -/
theorem rejections_cons (line : List Char) (rest : List (List Char)) :
    rejections fresh number (line :: rest) =
      (isRejected (fresh number) line).toNat + rejections fresh (number + 1) rest := by
  rw [rejections, List.zipIdx_cons, List.countP_cons, Nat.add_comm]
  by_cases hline : isRejected (fresh number) line = true
  · simp [hline, rejections]
  · simp [hline, rejections]

/-- A line is read as what it holds. -/
theorem lineReading_holds {line : List Char}
    (hfault : (lineReading path number (readLine freshId line)).fault = none) :
    (lineReading path number (readLine freshId line)).elements = (element? freshId line).toList ∧
      (lineReading path number (readLine freshId line)).skipped =
        (isRejected freshId line).toNat := by
  -- only a line that is not blank holds something
  have hblank : readLine freshId line = none ↔ line.all Text.isBlank = true := by
    rw [readLine]
    by_cases hline : line.all Text.isBlank = true
    · simp [hline]
    · simp [hline]
  rw [isRejected, element?]
  rcases hheld : readLine freshId line with _ | e | reason | f
  · rw [hblank.mp hheld]
    exact ⟨rfl, rfl⟩
  · exact ⟨rfl, by simp [lineReading]⟩
  · have hline : line.all Text.isBlank = false := by
      rw [← Bool.not_eq_true, ← hblank, hheld]
      exact Option.some_ne_none _
    rw [hline]
    exact ⟨rfl, rfl⟩
  · rw [hheld] at hfault
    cases hfault

/-- Lines are read as what they hold. -/
theorem readLines_holds (hfault : (readLines path fresh number lines).fault = none) :
    (readLines path fresh number lines).elements = accepted fresh number lines ∧
      (readLines path fresh number lines).skipped = rejections fresh number lines := by
  induction lines generalizing number with
  | nil => exact ⟨rfl, rfl⟩
  | cons line rest ih =>
    rw [readLines_cons] at hfault ⊢
    obtain ⟨hown, hrest⟩ := (Reading.append_fault _ _).mp hfault
    obtain ⟨helements, hskipped⟩ := ih hrest
    obtain ⟨helement, hskip⟩ := lineReading_holds hown
    rw [Reading.append_eq hown, accepted_cons, rejections_cons, helements, hskipped, helement, hskip]
    exact ⟨rfl, rfl⟩

/-! ## Whole streams

A stream is read to its end just if it is a text with legible lines; what is read is then what it
holds. -/

/-- **A reading of bytes** is not ended early just if they hold something, and then gives that. -/
theorem readBytes_holds (path : String) : Holds fresh bytes es rejected ↔
    (readBytes path fresh bytes).fault = none ∧ (readBytes path fresh bytes).elements = es ∧
      (readBytes path fresh bytes).skipped = rejected := by
  rw [Holds, readBytes]
  rcases decode? bytes with _ | text
  · refine iff_of_false (by simp) fun h => ?_
    -- the reading is ended by a line or by the bytes that are no text
    have hfault := h.1
    dsimp only at hfault
    generalize (readLines path fresh 1 (endedLines (validStart bytes))).fault = f at hfault
    rcases f with _ | f
    · cases hfault
    · cases hfault
  · dsimp only
    constructor
    · rintro ⟨_, heq, hlegible, rfl, rfl⟩
      obtain rfl := Option.some.inj heq
      have hfault := (readLines_fault path fresh 1 (Text.lines text)).mpr hlegible
      rw [readText_eq rfl hfault]
      exact ⟨hfault, readLines_holds hfault⟩
    · rintro ⟨hfault, rfl, rfl⟩
      have hlegible := (readText_fault path fresh text).mp hfault
      have hlines := (readLines_fault path fresh 1 (Text.lines text)).mpr hlegible
      obtain ⟨helements, hskipped⟩ := readLines_holds hlines
      rw [readText_eq rfl hlines]
      exact ⟨text, rfl, hlegible, helements.symm, hskipped.symm⟩

end CodeCatalog.Stream
