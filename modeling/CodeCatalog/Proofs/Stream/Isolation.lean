/-
The lines of a stream are read apart from each other.

`Reading.append` puts what further lines give behind what was read so far; a fault ends a reading
for good. Reading a list of lines in two parts is reading them in one (`readLines_append`), so a
line can be looked at between those before it and those behind it. The lines behind it know of it
through their numbers only, which stand in the warnings and choose the fresh ids.

What a line can do to the others is therefore to end the reading, and it does so exactly if it is
not legible: if it writes a number with too many digits, or nests too deep.
-/
import CodeCatalog.Proofs.Json.Nesting
import CodeCatalog.Proofs.Stream.RoundTrip

set_option autoImplicit false

namespace CodeCatalog.Stream

open Json Log

variable {path : String} {fresh : Nat → String} {lines : List (List Char)}

/-! ## Readings in parts

A reading is a monoid but for its fault, behind which nothing is read. So lines can be read one by
one and the readings be joined. -/

/-- What was read, and behind it what the lines that follow give. -/
def Reading.append (r s : Reading) : Reading :=
  match r.fault with
  | some _ => r
  | none => ⟨r.elements ++ s.elements, r.skipped + s.skipped, r.events ++ s.events, s.fault⟩

instance : Append Reading := ⟨Reading.append⟩

/-- Behind a reading that was not ended another one goes on. -/
theorem Reading.append_eq {r : Reading} (h : r.fault = none) (s : Reading) :
    r ++ s = ⟨r.elements ++ s.elements, r.skipped + s.skipped, r.events ++ s.events, s.fault⟩ := by
  change Reading.append r s = _
  rw [Reading.append, h]

/-- Behind a reading that was ended nothing is read. -/
theorem Reading.append_of_fault {r : Reading} (h : r.fault ≠ none) (s : Reading) : r ++ s = r := by
  change Reading.append r s = r
  rw [Reading.append]
  split
  · rfl
  · exact absurd ‹_› h

/-- How readings are grouped does not matter. -/
theorem Reading.append_assoc (r s t : Reading) : r ++ s ++ t = r ++ (s ++ t) := by
  by_cases hr : r.fault = none
  · by_cases hs : s.fault = none
    · rw [append_eq hr s, append_eq hs t, append_eq (by exact hs) t, append_eq hr]
      simp only [List.append_assoc, Nat.add_assoc]
    · have hrs : (r ++ s).fault ≠ none := by rw [append_eq hr]; exact hs
      rw [append_of_fault hrs, append_of_fault hs]
  · rw [append_of_fault hr s, append_of_fault hr t, append_of_fault hr]

/-- Two readings come to their end just if both do. -/
theorem Reading.append_fault (r s : Reading) :
    (r ++ s).fault = none ↔ r.fault = none ∧ s.fault = none := by
  by_cases hr : r.fault = none
  · rw [append_eq hr]
    exact (and_iff_right hr).symm
  · rw [append_of_fault hr]
    exact (and_iff_left_of_imp fun h => absurd h hr).symm

/-- What one line gives under its number. -/
def lineReading (path : String) (number : Nat) : Option Line → Reading
  | none => {}
  | some (.element e) => { elements := [e] }
  | some (.skipped reason) => { skipped := 1, events := [skippedEvent path number reason] }
  | some (.fatal f) => { fault := some f }

/-- Lines are read as the first one and then the others, with the next number. -/
theorem readLines_cons (path : String) (fresh : Nat → String) (number : Nat) (line : List Char)
    (lines : List (List Char)) :
    readLines path fresh number (line :: lines) =
      lineReading path number (readLine (fresh number) line) ++
        readLines path fresh (number + 1) lines := by
  rw [readLines]
  -- a line is blank, holds an element, is skipped, or ends the reading
  rcases readLine (fresh number) line with _ | e | reason | f
  · rw [lineReading, Reading.append_eq rfl]
    simp only [List.nil_append, Nat.zero_add]
  · rw [lineReading, Reading.append_eq rfl]
    simp only [List.nil_append, List.singleton_append, Nat.zero_add]
  · rw [lineReading, Reading.append_eq rfl]
    simp only [List.nil_append, List.singleton_append, Nat.add_comm 1]
  · rw [lineReading, Reading.append_of_fault (by simp)]

/-- Lines are read in two parts as in one. -/
theorem readLines_append (path : String) (fresh : Nat → String) (number : Nat)
    (before after : List (List Char)) :
    readLines path fresh number (before ++ after) =
      readLines path fresh number before ++
        readLines path fresh (number + before.length) after := by
  induction before generalizing number with
  | nil =>
    rw [readLines, Reading.append_eq rfl]
    simp only [List.nil_append, Nat.zero_add, List.length_nil, Nat.add_zero]
  | cons line before ih =>
    rw [List.cons_append, readLines_cons, ih, readLines_cons, Reading.append_assoc,
      List.length_cons, Nat.add_right_comm, Nat.add_assoc]

/-! ## Lines that can be read

Whether a line ends the reading does not depend on where it stands. Blank lines and lines that were
written never do. -/

/-- Blank characters begin no string and no number, and open and close nothing. -/
theorem isOther_of_isBlank {c : Char} (h : Text.isBlank c = true) : isOther c = true := by
  have hne : ∀ d, Text.isBlank d = false → c ≠ d := by
    rintro d hd rfl
    exact absurd (hd.symm.trans h) nofun
  -- the codes of the digits stand between two ranges of blanks
  have hout : ∀ n, 48 ≤ n → n ≤ 57 → Text.inRanges n Text.blanks.ranges = false := by
    intro n hlow hhigh
    interval_cases n <;> rfl
  have hdigit : c.isDigit = false := by
    rw [Bool.eq_false_iff]
    intro hdigit
    rw [Char.isDigit, Bool.and_eq_true, decide_eq_true_iff, decide_eq_true_iff, ge_iff_le,
      UInt32.le_iff_toNat_le, UInt32.le_iff_toNat_le] at hdigit
    rw [Text.isBlank, Text.RangeTable.contains, hout c.toNat hdigit.1 hdigit.2] at h
    exact absurd h nofun
  simp [isOther, isOpening, isClosing, hdigit, hne '"' (by decide), hne '[' (by decide),
    hne ']' (by decide), hne '{' (by decide), hne '}' (by decide)]

/-- A blank line is malformed at worst. -/
theorem legible_of_blank {line : List Char} (h : line.all Text.isBlank = true) : Legible line := by
  have hothers : line.all isOther = true :=
    List.all_eq_true.mpr fun c hc => isOther_of_isBlank (List.all_eq_true.mp h c hc)
  have hwithin : Within maxDepth (line ++ []) := (within_others hothers).mpr rfl
  rw [List.append_nil] at hwithin
  exact legible_of_within le_rfl hwithin

/-- A line that was written for an element can be read. -/
theorem legible_elementLine {e : Element} (h : e.WellTyped) : Legible (elementLine e) := by
  have hread : readChars (elementLine e) = .ok e.toRecord :=
    readChars_renderChars (plain_record h) ['\n'] (List.forall_mem_singleton.mpr rfl)
  intro error herror
  rw [hread] at herror
  exact absurd herror nofun

/-- A line ends the reading exactly if it is not legible. -/
theorem lineReading_fault (path : String) (number : Nat) (freshId : String) (line : List Char) :
    (lineReading path number (readLine freshId line)).fault = none ↔ Legible line := by
  rw [readLine]
  by_cases hblank : line.all Text.isBlank = true
  · rw [if_pos hblank]
    exact iff_of_true rfl (legible_of_blank hblank)
  · rw [if_neg hblank]
    -- a line that fails to be JSON is reported; a number that is too long and nesting that is too
    -- deep are not
    rcases hread : readChars line with (m | digits | _) | record
    · exact iff_of_true rfl fun e he => ⟨m, by rw [hread] at he; exact (Except.error.inj he).symm⟩
    · refine iff_of_false (Option.some_ne_none _) fun hlegible => ?_
      obtain ⟨m, hm⟩ := hlegible _ hread
      cases hm
    · refine iff_of_false (Option.some_ne_none _) fun hlegible => ?_
      obtain ⟨m, hm⟩ := hlegible _ hread
      cases hm
    · refine iff_of_true ?_ fun e he => by rw [hread] at he; cases he
      simp only
      split <;> rfl

/-- Reading ends early exactly if a line is not legible. -/
theorem readLines_fault (path : String) (fresh : Nat → String) (number : Nat)
    (lines : List (List Char)) :
    (readLines path fresh number lines).fault = none ↔ ∀ line ∈ lines, Legible line := by
  induction lines generalizing number with
  | nil => exact iff_of_true rfl nofun
  | cons line lines ih =>
    rw [readLines_cons, Reading.append_fault, lineReading_fault, ih, List.forall_mem_cons]

/-! ## Numbers of lines

The number of a line is told in its warning and chooses its fresh id, and has no other part in what
it gives. -/

/-- An event without the number of the line that it tells of. -/
def unnumbered (e : Event) : Event :=
  { e with context := e.context.filter (·.1 ≠ "line") }

/-- A reading whose warnings do not tell the numbers of their lines. -/
def Reading.unnumbered (r : Reading) : Reading :=
  { r with events := r.events.map Stream.unnumbered }

/-- Without their numbers, readings go on behind each other as with them. -/
theorem Reading.unnumbered_append (r s : Reading) :
    (r ++ s).unnumbered = r.unnumbered ++ s.unnumbered := by
  by_cases hr : r.fault = none
  · rw [append_eq hr, append_eq (by exact hr)]
    simp only [Reading.unnumbered, List.map_append]
  · rw [append_of_fault hr, append_of_fault (by exact hr)]

theorem lineReading_unnumbered (path : String) (m n : Nat) (line : Option Line) :
    (lineReading path m line).unnumbered = (lineReading path n line).unnumbered := by
  rcases line with _ | e | reason | f <;> rfl

/-- What lines give depends on the fresh ids of their own numbers. -/
theorem readLines_congr {fresh' : Nat → String} {n : Nat}
    (hfresh : ∀ k < lines.length, fresh' (n + k) = fresh (n + k)) :
    readLines path fresh' n lines = readLines path fresh n lines := by
  induction lines generalizing n with
  | nil => rfl
  | cons line lines ih =>
    have hhead : fresh' n = fresh n := hfresh 0 (by simp)
    have htail : ∀ k < lines.length, fresh' (n + 1 + k) = fresh (n + 1 + k) := by
      intro k hk
      have h := hfresh (k + 1) (by simpa using hk)
      rwa [Nat.add_comm k 1, ← Nat.add_assoc] at h
    rw [readLines_cons, readLines_cons, ih htail, hhead]

/-- What lines give under other numbers, where each takes the fresh id that it had. -/
theorem readLines_unnumbered {fresh' : Nat → String} {m n : Nat}
    (hfresh : ∀ k < lines.length, fresh' (m + k) = fresh (n + k)) :
    (readLines path fresh' m lines).unnumbered = (readLines path fresh n lines).unnumbered := by
  induction lines generalizing m n with
  | nil => rfl
  | cons line lines ih =>
    -- both readings give the line the same id, and number the others alike
    have hhead : fresh' m = fresh n := hfresh 0 (by simp)
    have htail : ∀ k < lines.length, fresh' (m + 1 + k) = fresh (n + 1 + k) := by
      intro k hk
      have h := hfresh (k + 1) (by simpa using hk)
      rwa [Nat.add_assoc, Nat.add_assoc, Nat.add_comm 1 k]
    rw [readLines_cons, readLines_cons, Reading.unnumbered_append, Reading.unnumbered_append,
      ih htail, hhead, lineReading_unnumbered path m n]

/-! ## A text without one of its lines

The lines of a text, one of them left out, are the lines of the text that they make. This is not so
of any lists of characters, so lines that were cut are told apart first. -/

/-- Texts as lines are cut: each but the last ends in its only newline. -/
inductive IsCut : List (List Char) → Prop
  | nil : IsCut []
  | last {line : List Char} : line ≠ [] → '\n' ∉ line → '\r' ∉ line → IsCut [line]
  | cons (line : List Char) {lines : List (List Char)} :
      '\n' ∉ line → '\r' ∉ line → IsCut lines → IsCut ((line ++ ['\n']) :: lines)

/-- A character in front of cut lines leaves them cut. -/
theorem isCut_consLine {c : Char} (hc : c ≠ '\r') (h : IsCut lines) :
    IsCut (Text.consLine c lines) := by
  rw [Text.consLine.eq_def]
  split
  · exact IsCut.cons [] nofun nofun h
  · rename_i hn
    cases h with
    | nil => exact .last (by simp) (by simpa using Ne.symm hn) (by simpa using Ne.symm hc)
    | last _ hnew hret =>
      exact .last (by simp) (by simp [Ne.symm hn, hnew]) (by simp [Ne.symm hc, hret])
    | cons line hnew hret h =>
      exact IsCut.cons (c :: line) (by simp [Ne.symm hn, hnew]) (by simp [Ne.symm hc, hret]) h

/-- No carriage return is left of the line ends of a text. -/
theorem not_mem_unifyLineEnds (text : List Char) : '\r' ∉ Text.unifyLineEnds text := by
  intro hmem
  obtain ⟨cs, hcs, hret⟩ := List.mem_flatten.mp hmem
  -- a character is unified by itself and the one before it
  obtain ⟨before, c, -, rfl⟩ : ∃ before c, c ∈ text ∧ Text.unifiedAfter before c = cs := by
    obtain ⟨i, hi, rfl⟩ := List.mem_iff_getElem.mp hcs
    rw [List.getElem_zipWith]
    exact ⟨_, _, List.getElem_mem _, rfl⟩
  rw [Text.unifiedAfter] at hret
  split at hret
  · exact absurd hret List.not_mem_nil
  · split at hret
    · exact absurd hret (by decide)
    · rename_i hc
      exact hc (List.mem_singleton.mp hret).symm

/-- The lines of a text are cut. -/
theorem isCut_lines (text : List Char) : IsCut (Text.lines text) := by
  have hreturn := not_mem_unifyLineEnds text
  rw [Text.lines, Text.cutAfterNewlines]
  generalize Text.unifyLineEnds text = unified at hreturn
  induction unified with
  | nil => exact .nil
  | cons c cs ih =>
    rw [List.mem_cons, not_or] at hreturn
    exact isCut_consLine (Ne.symm hreturn.1) (ih hreturn.2)

namespace IsCut

/-- No carriage return is in cut lines together. -/
theorem not_mem_flatten (h : IsCut lines) : '\r' ∉ lines.flatten := by
  induction h with
  | nil => nofun
  | last _ _ hret => simpa using hret
  | cons _ _ hret _ ih => simp [hret, ih]

/-- Cut lines are the lines of the text that they make. -/
theorem lines_flatten (h : IsCut lines) : Text.lines lines.flatten = lines := by
  rw [Text.lines, unifyLineEnds_eq h.not_mem_flatten]
  -- by the cut: the last line may lack its end, every other one has it
  induction h with
  | nil => rfl
  | @last line hne hnew _ =>
    rw [List.flatten_singleton, Text.cutAfterNewlines]
    clear * - hne hnew
    induction line with
    | nil => exact absurd rfl hne
    | cons c line ih =>
      rw [List.mem_cons, not_or] at hnew
      rw [List.foldr_cons, Text.consLine.eq_def, if_neg (Ne.symm hnew.1)]
      rcases line with _ | ⟨d, line⟩
      · rfl
      · rw [ih (by simp) hnew.2]
  | cons _ hnew _ _ ih =>
    rw [List.flatten_cons, List.append_assoc, List.singleton_append, cutAfterNewlines_line hnew, ih]

/-- Cut lines stay cut without one of them. -/
theorem eraseIdx (h : IsCut lines) (i : Nat) : IsCut (lines.eraseIdx i) := by
  induction h generalizing i with
  | nil => exact .nil
  | last hne hnew hret =>
    cases i with
    | zero => exact .nil
    | succ i => exact .last hne hnew hret
  | cons line hnew hret h ih =>
    cases i with
    | zero => exact h
    | succ i => exact .cons line hnew hret (ih i)

end IsCut

/-- A text without one of its lines. -/
def withoutLine (text : List Char) (i : Nat) : List Char :=
  ((Text.lines text).eraseIdx i).flatten

/-- The lines of a text without one of its lines are the others. -/
theorem lines_withoutLine (text : List Char) (i : Nat) :
    Text.lines (withoutLine text i) = (Text.lines text).eraseIdx i :=
  ((isCut_lines text).eraseIdx i).lines_flatten

/-! ## One line and the others

A line that can be read gives what it would give alone, and the others give what they would give
without it. -/

/-- The fresh ids of the lines without the one at a position: those behind it have moved up. -/
def freshWithout (i : Nat) (fresh : Nat → String) (number : Nat) : String :=
  if number ≤ i then fresh number else fresh (number + 1)

/-- A line is set apart from the others. Those before it gave `earlier`, the line `own` and those
behind it `later`. `whole` is the reading of all of them, and `other` the reading of a stream
without the line. -/
structure SetApart (path : String) (earlier own later whole other : Reading) : Prop where
  /-- The line is one element or is skipped. -/
  own_one : own.elements.length + own.skipped = 1
  own_warning : own.events.length = own.skipped
  elements : whole.elements = earlier.elements ++ own.elements ++ later.elements
  skipped : whole.skipped = earlier.skipped + own.skipped + later.skipped
  events : whole.events = earlier.events ++ own.events ++ later.events ++
    [loadedEvent path whole.elements.length whole.skipped]
  other_fault : other.fault = none
  other_elements : other.elements = earlier.elements ++ later.elements
  other_skipped : other.skipped = earlier.skipped + later.skipped
  /-- Without the line, the warnings behind it tell other numbers. -/
  other_events : ∃ renumbered : List Event,
    renumbered.map unnumbered = later.events.map unnumbered ∧
    other.events = earlier.events ++ renumbered ++
      [loadedEvent path other.elements.length other.skipped]

/-- What a legible line that is not blank gives. -/
theorem lineReading_one {line : List Char} (hline : line.all Text.isBlank = false)
    (hlegible : Legible line) (path : String) (number : Nat) (freshId : String) :
    let own := lineReading path number (readLine freshId line)
    own.fault = none ∧ own.elements.length + own.skipped = 1 ∧ own.events.length = own.skipped := by
  intro own
  have hfault : own.fault = none := (lineReading_fault path number freshId line).mpr hlegible
  refine ⟨hfault, ?_⟩
  obtain ⟨held, hheld⟩ : ∃ held, readLine freshId line = some held := by
    rw [readLine, hline]
    exact ⟨_, rfl⟩
  rw [show own = lineReading path number (some held) by rw [← hheld]] at hfault ⊢
  -- a line that is not blank holds an element or is skipped, and is reported in the second case
  -- only
  rcases held with e | reason | f
  · exact ⟨rfl, rfl⟩
  · exact ⟨rfl, rfl⟩
  · cases hfault

/-- A text that is read to its end, and the totals that are told there. -/
theorem readText_eq {text : List Char} {r : Reading}
    (hr : readLines path fresh 1 (Text.lines text) = r) (hfault : r.fault = none) :
    readText path fresh text =
      { r with events := r.events ++ [loadedEvent path r.elements.length r.skipped] } := by
  rw [readText, hr]
  simp only [hfault]

/-- What is read from the file of a text. -/
theorem readAt_text {α : Type} {tree : Tree α} {folder : Place} {path : Path} (text : List Char)
    (hfile : tree.bytesAt folder path = .ok (String.ofList text).toUTF8) (fresh : Nat → String) :
    readAt tree folder path fresh = .ok (readText path.text fresh text) := by
  rw [readAt, hfile, Except.map, readBytes, decode?_toUTF8]

/-- Reading a text ends early exactly if one of its lines is not legible. -/
theorem readText_fault (path : String) (fresh : Nat → String) (text : List Char) :
    (readText path fresh text).fault = none ↔ ∀ line ∈ Text.lines text, Legible line := by
  rw [← readLines_fault path fresh 1, readText]
  rcases hr : readLines path fresh 1 (Text.lines text) with ⟨elements, skipped, events, _ | f⟩
  · rfl
  · rfl

/-- A line between others that are all legible. -/
theorem setApart (path : String) (fresh : Nat → String) {text without line : List Char}
    {before after : List (List Char)}
    (htext : Text.lines text = before ++ line :: after)
    (hwithout : Text.lines without = before ++ after) (hblank : line.all Text.isBlank = false)
    (hlegible : ∀ l ∈ Text.lines text, Legible l) :
    SetApart path (readLines path fresh 1 before)
      (lineReading path (before.length + 1) (readLine (fresh (before.length + 1)) line))
      (readLines path fresh (before.length + 2) after)
      (readText path fresh text) (readText path (freshWithout before.length fresh) without) := by
  rw [htext] at hlegible
  have hbefore : ∀ l ∈ before, Legible l := fun l hl => hlegible l (by simp [hl])
  have hafter : ∀ l ∈ after, Legible l := fun l hl => hlegible l (by simp [hl])
  obtain ⟨hown, hone, hwarning⟩ := lineReading_one hblank (hlegible line (by simp)) path
    (before.length + 1) (fresh (before.length + 1))
  generalize hownReading : lineReading path (before.length + 1)
    (readLine (fresh (before.length + 1)) line) = own at hown hone hwarning
  have hearlier := (readLines_fault path fresh 1 before).mpr hbefore
  have hlater := (readLines_fault path fresh (before.length + 2) after).mpr hafter
  -- the stream with the line
  have hwhole : readLines path fresh 1 (Text.lines text) = readLines path fresh 1 before ++
      (own ++ readLines path fresh (before.length + 2) after) := by
    rw [htext, readLines_append, readLines_cons, Nat.add_comm 1, hownReading]
  -- the stream without it: the fresh ids go with their lines, the numbers do not
  have hother : readLines path (freshWithout before.length fresh) 1 (Text.lines without) =
      readLines path fresh 1 before ++
        readLines path (freshWithout before.length fresh) (before.length + 1) after := by
    rw [hwithout, readLines_append, Nat.add_comm 1]
    congr 1
    refine readLines_congr fun k hk => ?_
    rw [freshWithout, if_pos (by omega)]
  have hmoved : (readLines path (freshWithout before.length fresh) (before.length + 1)
      after).unnumbered = (readLines path fresh (before.length + 2) after).unnumbered := by
    refine readLines_unnumbered fun k hk => ?_
    have hnumber : before.length + 1 + k + 1 = before.length + 2 + k := by omega
    rw [freshWithout, if_neg (by omega), hnumber]
  generalize readLines path (freshWithout before.length fresh) (before.length + 1) after = later'
    at hother hmoved
  generalize readLines path fresh (before.length + 2) after = later at *
  generalize readLines path fresh 1 before = earlier at *
  obtain ⟨elements', skipped', events', fault'⟩ := later'
  obtain ⟨elements, skipped, events, fault⟩ := later
  obtain ⟨rfl, rfl, hevents, rfl⟩ := Reading.mk.inj hmoved
  rw [Reading.append_eq hearlier, Reading.append_eq hown] at hwhole
  rw [Reading.append_eq hearlier] at hother
  rw [readText_eq hwhole hlater, readText_eq hother hlater]
  exact {
    own_one := hone
    own_warning := hwarning
    elements := (List.append_assoc ..).symm
    skipped := (Nat.add_assoc ..).symm
    events := by simp only [List.append_assoc]
    other_fault := hlater
    other_elements := rfl
    other_skipped := rfl
    other_events := ⟨events', hevents, rfl⟩ }

/-- **Lines are isolated.** A stream is read to its end exactly if each of its lines is legible.
Then a line that is not blank gives one element or is skipped with one warning, and the elements,
the skipped lines and the warnings of the others are those of the stream without the line, but for
the numbers of the lines behind it. -/
theorem readAt_isolated {α : Type} (tree rest : Tree α) (folder : Place) (path : Path)
    (fresh : Nat → String) (text : List Char) (i : Nat) (line : List Char)
    (hfile : tree.bytesAt folder path = .ok (String.ofList text).toUTF8)
    (hrest : rest.bytesAt folder path = .ok (String.ofList (withoutLine text i)).toUTF8)
    (hline : (Text.lines text)[i]? = some line) (hblank : line.all Text.isBlank = false) :
    ∃ whole other, readAt tree folder path fresh = .ok whole ∧
      readAt rest folder path (freshWithout i fresh) = .ok other ∧
      (whole.fault = none ↔ ∀ l ∈ Text.lines text, Legible l) ∧
      (whole.fault = none → SetApart path.text
        (readLines path.text fresh 1 ((Text.lines text).take i))
        (lineReading path.text (i + 1) (readLine (fresh (i + 1)) line))
        (readLines path.text fresh (i + 2) ((Text.lines text).drop (i + 1)))
        whole other) := by
  refine ⟨_, _, readAt_text text hfile fresh, readAt_text _ hrest _, readText_fault _ _ _, ?_⟩
  intro hfault
  have hlegible := (readText_fault path.text fresh text).mp hfault
  obtain ⟨hi, hget⟩ := List.getElem?_eq_some_iff.mp hline
  -- the line is taken out of the middle, so both texts have the same lines before and behind it
  have hsplit : Text.lines text =
      (Text.lines text).take i ++ line :: (Text.lines text).drop (i + 1) := by
    rw [← hget, List.cons_getElem_drop_succ, List.take_append_drop]
  have hwithout : Text.lines (withoutLine text i) =
      (Text.lines text).take i ++ (Text.lines text).drop (i + 1) := by
    rw [lines_withoutLine, List.eraseIdx_eq_take_drop_succ]
  have hlength : ((Text.lines text).take i).length = i := List.length_take_of_le hi.le
  have h := setApart path.text fresh hsplit hwithout hblank hlegible
  rwa [hlength] at h

/-- The element of the two streams below. -/
def plainElement : Element :=
  { id := "a", name := "A", payload := .type .classType {} }

theorem wellTyped_plainElement : plainElement.WellTyped :=
  ⟨rfl, by decide, by decide, by decide, by decide, by decide, by decide⟩

/-- A line is cut off before that of the element. -/
theorem lines_before_plainElement {line : List Char} (h : '\n' ∉ line ∧ '\r' ∉ line) :
    Text.lines (line ++ ['\n'] ++ elementLine plainElement) =
      [line ++ ['\n'], elementLine plainElement] := by
  -- the two lines are written without their ends, since what is between line ends has none in it
  have htext : line ++ ['\n'] ++ elementLine plainElement =
      [line, renderChars plainElement.toRecord].flatMap (· ++ ['\n']) := by
    rw [List.flatMap_cons, List.flatMap_singleton]
    rfl
  rw [htext, lines_flatMap]
  · rfl
  · intro l hl
    rcases List.mem_pair.mp hl with rfl | rfl
    · exact h
    · exact not_mem_renderChars wellTyped_plainElement

/-- A line that is no JSON, before that of an element. -/
theorem readAt_isolated_malformed :
    let text := "nonsense\n".toList ++ elementLine plainElement
    let tree : Tree Unit := ⟨[(["in.jsonl"], .file (String.ofList text).toUTF8)]⟩
    let rest : Tree Unit := ⟨[(["in.jsonl"], .file (String.ofList (withoutLine text 0)).toUTF8)]⟩
    ∃ whole other, readAt tree [] ⟨0, ["in.jsonl"]⟩ (fun n => toString n) = .ok whole ∧
      readAt rest [] ⟨0, ["in.jsonl"]⟩ (freshWithout 0 fun n => toString n) = .ok other ∧
      whole.fault = none ∧ whole.elements = [plainElement] ∧ whole.skipped = 1 ∧
      other.fault = none ∧ other.elements = [plainElement] ∧ other.skipped = 0 := by
  intro text tree rest
  have hlines : Text.lines text = ["nonsense\n".toList, elementLine plainElement] :=
    lines_before_plainElement (by decide : '\n' ∉ "nonsense".toList ∧ '\r' ∉ "nonsense".toList)
  obtain ⟨whole, other, hwhole, hother, hfault, hapart⟩ := readAt_isolated tree rest []
    ⟨0, ["in.jsonl"]⟩ (fun n => toString n) text 0 "nonsense\n".toList rfl rfl
    (by rw [hlines]; rfl) (by decide)
  have hlegible : ∀ l ∈ Text.lines text, Legible l := by
    rw [hlines]
    intro l hl
    rcases List.mem_pair.mp hl with rfl | rfl
    · decide
    · exact legible_elementLine wellTyped_plainElement
  have hread := hapart (hfault.mpr hlegible)
  -- the line behind is read alike in both files, whatever number it has
  have hlater : ∀ path fresh, readLines path fresh 2 [elementLine plainElement] =
      { elements := [plainElement] } :=
    fun path fresh =>
      readLines_map (List.forall_mem_singleton.mpr wellTyped_plainElement) path fresh 2
  have hown : readLine (toString 1) "nonsense\n".toList =
      some (.skipped "invalid JSON: Expecting value") := by decide +kernel
  rw [hlines, List.take_zero, List.drop_one, List.tail_cons, hlater, hown] at hread
  refine ⟨whole, other, hwhole, hother, hfault.mpr hlegible, ?_, ?_, hread.other_fault, ?_, ?_⟩
  · exact hread.elements
  · exact hread.skipped
  · exact hread.other_elements
  · exact hread.other_skipped

/-- A line of too many digits takes the element behind it with it. -/
theorem readAt_not_isolated :
    let line := List.replicate 4301 '9' ++ ['\n']
    let text := line ++ elementLine plainElement
    let tree : Tree Unit := ⟨[(["in.jsonl"], .file (String.ofList text).toUTF8)]⟩
    let rest : Tree Unit := ⟨[(["in.jsonl"], .file (String.ofList (withoutLine text 0)).toUTF8)]⟩
    (Text.lines text)[0]? = some line ∧
      readAt tree [] ⟨0, ["in.jsonl"]⟩ (fun n => toString n) =
        .ok { fault := some (.longWhole 4301) } ∧
      readAt rest [] ⟨0, ["in.jsonl"]⟩ (freshWithout 0 fun n => toString n) =
        .ok { elements := [plainElement], events := [loadedEvent "in.jsonl" 1 0] } := by
  intro line text tree rest
  -- the digits are kept as a list of copies, since a text of that length is not to be computed
  have hdigits : ∀ d ∈ List.replicate 4301 '9', d = '9' := fun d => List.eq_of_mem_replicate
  have hlines : Text.lines text = [line, elementLine plainElement] :=
    lines_before_plainElement
      ⟨fun h => absurd (hdigits _ h) (by decide), fun h => absurd (hdigits _ h) (by decide)⟩
  have hwithout : withoutLine text 0 = render [plainElement] := by
    rw [withoutLine, hlines, List.eraseIdx_zero, List.tail_cons, List.flatten_singleton, render,
      List.flatMap_singleton]
  have hline : readLine (toString 1) line = some (.fatal (.longWhole 4301)) := by
    have hblank : line.all Text.isBlank = false := by
      rw [List.all_append, List.all_replicate]
      rfl
    have hread : readChars line = .error (.longWhole 4301) := by
      have hcons : List.replicate 4301 '9' = '9' :: List.replicate 4300 '9' := List.replicate_succ
      have hlength : ('9' :: List.replicate 4300 '9').length = 4301 := by
        rw [← hcons, List.length_replicate]
      have h := readChars_digits '9' (List.replicate 4300 '9') (by decide)
        (fun d hd => by rw [hdigits d (hcons ▸ hd)]; rfl) (by rw [hlength]; decide)
      rwa [hlength, ← hcons] at h
    rw [readLine, hblank, hread]
    rfl
  have hes : ∀ e ∈ [plainElement], e.WellTyped :=
    List.forall_mem_singleton.mpr wellTyped_plainElement
  refine ⟨by rw [hlines]; rfl, ?_, ?_⟩
  · rw [readAt_text text rfl, readText, hlines, readLines, hline]
  · have hbytes : rest.bytesAt [] ⟨0, ["in.jsonl"]⟩ =
        .ok (String.ofList (render [plainElement])).toUTF8 := by
      rw [← hwithout]
      rfl
    rw [readAt, hbytes, Except.map, readBytes_render hes]
    rfl

end CodeCatalog.Stream
