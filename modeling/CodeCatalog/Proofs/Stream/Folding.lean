/-
A stream is read line by line.

`IsSplit` says how a text is cut into lines: behind a newline, a carriage return, or the two
together, and nowhere else. There is one way to do so (`isSplit_iff`), and it respects a newline
that a text ends in (`IsSplit.append`), which a carriage return would not do.

What a line gives is its element, or the reason why it has none. A reading puts these together in
the order of the lines (`Folds`), so reading a text and what follows it is reading the two
(`Joins`), but for the numbers of the later lines.
-/
import CodeCatalog.Proofs.Json.Nesting
import CodeCatalog.Proofs.Stream.Contents

set_option autoImplicit false

namespace CodeCatalog.Stream

open Json Log

variable {path freshId : String} {fresh : Nat → String} {text a b body rest line : List Char}
  {lines : List (List Char)} {number : Nat}

/-! ## Lines

A text is cut into lines at newlines and carriage returns, where the two together end one line.
`IsSplit` says so by what stands in the text, and leaves no choice. -/

/-- A text has no end of a line in it. -/
def Unended (body : List Char) : Prop :=
  '\n' ∉ body ∧ '\r' ∉ body

/-- A text and its lines. The end of a line is written as a newline. -/
inductive IsSplit : List Char → List (List Char) → Prop
  | nil : IsSplit [] []
  /-- The last line needs no end. -/
  | last {body : List Char} : body ≠ [] → Unended body → IsSplit body [body]
  | newline {body rest : List Char} {lines : List (List Char)} :
      Unended body → IsSplit rest lines → IsSplit (body ++ '\n' :: rest) ((body ++ ['\n']) :: lines)
  | both {body rest : List Char} {lines : List (List Char)} :
      Unended body → IsSplit rest lines →
      IsSplit (body ++ '\r' :: '\n' :: rest) ((body ++ ['\n']) :: lines)
  | alone {body rest : List Char} {lines : List (List Char)} :
      Unended body → rest.head? ≠ some '\n' → IsSplit rest lines →
      IsSplit (body ++ '\r' :: rest) ((body ++ ['\n']) :: lines)

/-- A text with each line end written as one newline, behind a character. -/
def unifiedBehind (before : Char) (text : List Char) : List Char :=
  (List.zipWith Text.unifiedAfter (before :: text) text).flatten

theorem unifiedBehind_cons (before c : Char) (text : List Char) :
    unifiedBehind before (c :: text) = Text.unifiedAfter before c ++ unifiedBehind c text := by
  rw [unifiedBehind, List.zipWith_cons_cons, List.flatten_cons, unifiedBehind]

/-- What stands before a text matters only if the two could be one line end. -/
theorem unifiedBehind_of_head (before : Char) (h : before = '\r' → rest.head? ≠ some '\n') :
    unifiedBehind before rest = Text.unifyLineEnds rest := by
  change _ = unifiedBehind '\n' rest
  rcases rest with _ | ⟨c, rest⟩
  · rfl
  · have hbefore : ¬ (c = '\n' ∧ before = '\r') := fun hc => h hc.2 (congrArg some hc.1)
    have hnewline : ¬ (c = '\n' ∧ '\n' = '\r') := fun hc => absurd hc.2 (by decide)
    rw [unifiedBehind_cons, unifiedBehind_cons, Text.unifiedAfter, Text.unifiedAfter,
      if_neg hbefore, if_neg hnewline]

/-- A text without line ends is left as it is, and so is a line end behind it. -/
theorem unifiedBehind_body (h : Unended body) (before : Char) {c : Char}
    (hc : c ≠ '\n' ∨ before ≠ '\r') :
    unifiedBehind before (body ++ c :: rest) =
      body ++ (if c = '\r' then ['\n'] else [c]) ++ unifiedBehind c rest := by
  induction body generalizing before with
  | nil =>
    -- a line end is written once, also where it is two characters
    have hend : ¬ (c = '\n' ∧ before = '\r') := fun h => hc.elim (absurd h.1) (absurd h.2)
    rw [List.nil_append, unifiedBehind_cons, Text.unifiedAfter, if_neg hend]
    rfl
  | cons d body ih =>
    obtain ⟨hnew, hreturn⟩ := h
    rw [List.mem_cons, not_or] at hnew hreturn
    rw [List.cons_append, unifiedBehind_cons, ih ⟨hnew.2, hreturn.2⟩ d (.inr (Ne.symm hreturn.1)),
      Text.unifiedAfter, if_neg fun h => hnew.1 h.1.symm, if_neg (Ne.symm hreturn.1)]
    rfl

/-- A line is cut off behind each kind of line end. -/
theorem lines_newline (h : Unended body) (rest : List Char) :
    Text.lines (body ++ '\n' :: rest) = (body ++ ['\n']) :: Text.lines rest := by
  have hunified : Text.unifyLineEnds (body ++ '\n' :: rest) =
      body ++ '\n' :: Text.unifyLineEnds rest := by
    change unifiedBehind '\n' _ = body ++ '\n' :: unifiedBehind '\n' rest
    rw [unifiedBehind_body h '\n' (.inr (by decide)), if_neg (by decide), List.append_assoc]
    rfl
  rw [Text.lines, hunified, cutAfterNewlines_line h.1, Text.lines]

/-- A carriage return ends a line, and a newline behind it belongs to it. -/
theorem lines_return (h : Unended body) (rest : List Char) :
    Text.lines (body ++ '\r' :: rest) =
      (body ++ ['\n']) :: Text.cutAfterNewlines (unifiedBehind '\r' rest) := by
  have hunified : Text.unifyLineEnds (body ++ '\r' :: rest) =
      body ++ '\n' :: unifiedBehind '\r' rest := by
    change unifiedBehind '\n' _ = _
    rw [unifiedBehind_body h '\n' (.inr (by decide)), if_pos rfl, List.append_assoc]
    rfl
  rw [Text.lines, hunified, cutAfterNewlines_line h.1]

/-- Lines that a text is split into are its lines. -/
theorem lines_eq_of_isSplit (h : IsSplit text lines) : Text.lines text = lines := by
  -- by the split: a line ends with a newline, a return and a newline, a return alone, or with the
  -- text
  induction h with
  | nil => rfl
  | @last body hne hbody =>
    have hcut := (IsCut.last hne hbody.1 hbody.2).lines_flatten
    rwa [List.flatten_singleton] at hcut
  | newline hbody _ ih => rw [lines_newline hbody, ih]
  | both hbody _ ih =>
    rw [lines_return hbody, unifiedBehind_cons, ← ih]
    rfl
  | alone hbody hhead _ ih =>
    rw [lines_return hbody, unifiedBehind_of_head '\r' fun _ => hhead, ← ih]
    rfl

/-- The first end of a line in a text. -/
theorem exists_unended (text : List Char) :
    Unended text ∨
      ∃ body c rest, text = body ++ c :: rest ∧ Unended body ∧ (c = '\n' ∨ c = '\r') := by
  induction text with
  | nil => exact .inl ⟨List.not_mem_nil, List.not_mem_nil⟩
  | cons d text ih =>
    -- the first line end of the text is its first character, or stands further back
    by_cases hd : d = '\n' ∨ d = '\r'
    · exact .inr ⟨[], d, text, rfl, ⟨List.not_mem_nil, List.not_mem_nil⟩, hd⟩
    rw [not_or] at hd
    have hcons : ∀ body, Unended body → Unended (d :: body) := fun body hbody =>
      ⟨List.not_mem_cons_of_ne_of_not_mem (Ne.symm hd.1) hbody.1,
        List.not_mem_cons_of_ne_of_not_mem (Ne.symm hd.2) hbody.2⟩
    rcases ih with hbody | ⟨body, c, rest, rfl, hbody, hc⟩
    · exact .inl (hcons text hbody)
    · exact .inr ⟨d :: body, c, rest, rfl, hcons body hbody, hc⟩

/-- Each text can be split into lines. -/
theorem exists_isSplit (text : List Char) : ∃ lines, IsSplit text lines := by
  -- what stands behind the first line end is shorter
  induction hlength : text.length using Nat.strong_induction_on generalizing text with
  | _ n ih =>
    subst hlength
    rcases exists_unended text with hbody | ⟨body, c, rest, rfl, hbody, hc⟩
    · by_cases hne : text = []
      · exact ⟨[], by rw [hne]; exact .nil⟩
      · exact ⟨[text], .last hne hbody⟩
    have hshorter : rest.length < (body ++ c :: rest).length := by
      rw [List.length_append, List.length_cons]
      omega
    obtain ⟨lines, hlines⟩ := ih rest.length hshorter rest rfl
    rcases hc with rfl | rfl
    · exact ⟨_, .newline hbody hlines⟩
    rcases rest with _ | ⟨d, rest⟩
    · exact ⟨_, .alone hbody (by decide) hlines⟩
    by_cases hd : d = '\n'
    · subst hd
      obtain ⟨more, hmore⟩ := ih rest.length ((Nat.lt_succ_self _).trans hshorter) rest rfl
      exact ⟨_, .both hbody hmore⟩
    · exact ⟨_, .alone hbody (fun h => hd (Option.some.inj h)) hlines⟩

/-- **The lines of a text** are what it is cut into behind its line ends. -/
theorem isSplit_iff : IsSplit text lines ↔ lines = Text.lines text := by
  constructor
  · exact fun h => (lines_eq_of_isSplit h).symm
  · rintro rfl
    obtain ⟨lines, h⟩ := exists_isSplit text
    rwa [lines_eq_of_isSplit h]

/-- Behind a newline lines are cut as from the beginning of a text. -/
theorem IsSplit.append {before after : List (List Char)} (ha : IsSplit a before)
    (hend : ∀ c ∈ a.getLast?, c = '\n') (hb : IsSplit b after) :
    IsSplit (a ++ b) (before ++ after) := by
  -- what stands behind a line ends as the whole text does
  have hbehind : ∀ {front rest : List Char}, (∀ c ∈ (front ++ rest).getLast?, c = '\n') →
      ∀ c ∈ rest.getLast?, c = '\n' :=
    fun h c hc => h c (List.mem_getLast?_append_of_mem_getLast? hc)
  induction ha with
  | nil => exact hb
  | @last body hne hbody =>
    have hlast := hend (body.getLast hne) (List.getLast?_eq_some_getLast hne)
    exact absurd (hlast ▸ List.getLast_mem hne) hbody.1
  | newline hbody _ ih =>
    rw [List.append_cons] at hend
    rw [List.append_assoc, List.cons_append]
    exact .newline hbody (ih (hbehind hend))
  | both hbody _ ih =>
    rw [List.append_cons, List.append_cons] at hend
    rw [List.append_assoc, List.cons_append, List.cons_append]
    exact .both hbody (ih (hbehind hend))
  | @alone body rest _ hbody hhead _ ih =>
    rw [List.append_cons] at hend
    rw [List.append_assoc, List.cons_append]
    refine .alone hbody ?_ (ih (hbehind hend))
    rcases rest with _ | ⟨d, rest⟩
    · -- a carriage return would end the text
      have hreturn := hend '\r' (by simp)
      exact absurd hreturn (by decide)
    · exact hhead

/-- **A text whose last line has ended**, and what follows it, are cut into lines apart. -/
theorem lines_append (hend : a.getLast? = some '\n') (b : List Char) :
    Text.lines (a ++ b) = Text.lines a ++ Text.lines b := by
  have hlast : ∀ c ∈ a.getLast?, c = '\n' := by
    rw [hend]
    exact fun c hc => (Option.some.inj hc).symm
  exact lines_eq_of_isSplit ((isSplit_iff.mpr rfl).append hlast (isSplit_iff.mpr rfl))

/-! ## What lines give

Each line that is not blank gives an element or a refusal with its number. These lists go together
for lines that stand one behind the other, with the numbers moved on. -/

/-- The element that the record of a line describes. -/
def elementOf? (freshId : String) (line : List Char) : Option Element :=
  match readChars line with
  | .ok record => (Element.ofRecord freshId record).toOption
  | .error _ => none

/-- Why a line is no record of an element. -/
def refusal? (freshId : String) (line : List Char) : Option String :=
  match readChars line with
  | .ok record =>
    match Element.ofRecord freshId record with
    | .ok _ => none
    | .error e => some e.message
  | .error (.malformed m) => some ("invalid JSON: " ++ m.message)
  | .error _ => none

/-- The lines that are not blank, with their numbers. Blank lines are numbered too. -/
def filled (number : Nat) (lines : List (List Char)) : List (List Char × Nat) :=
  (lines.zipIdx number).filter fun (line, _) => Text.strip line ≠ []

/-- The elements of the lines that are records of one. -/
def taken (fresh : Nat → String) (number : Nat) (lines : List (List Char)) : List Element :=
  (filled number lines).filterMap fun (line, n) => elementOf? (fresh n) line

/-- The other lines that are not blank: the number of each, and why it is skipped. -/
def refused (fresh : Nat → String) (number : Nat) (lines : List (List Char)) :
    List (Nat × String) :=
  (filled number lines).filterMap fun (line, n) => (refusal? (fresh n) line).map (n, ·)

/-- The warnings about skipped lines. -/
def warned (path : String) (skipped : List (Nat × String)) : List Event :=
  skipped.map fun (n, reason) => skippedEvent path n reason

/-- Nothing is left of a line just if all of it is blank. -/
theorem strip_eq_nil_iff (line : List Char) :
    Text.strip line = [] ↔ line.all Text.isBlank = true := by
  rw [Text.strip, Text.trimBy, List.reverse_eq_nil_iff, List.dropWhile_eq_nil_iff, List.all_eq_true]
  constructor
  · intro h
    by_contra hline
    -- the first character that is not blank would be left
    have hne : line.dropWhile Text.isBlank ≠ [] := by
      rw [Ne, List.dropWhile_eq_nil_iff]
      exact hline
    have hhead := List.head_dropWhile_not Text.isBlank hne
    have hblank := h _ (List.mem_reverse.mpr (List.head_mem hne))
    rw [hblank] at hhead
    exact absurd hhead (by decide)
  · intro h c hc
    exact h c (List.dropWhile_sublist _ |>.subset (List.mem_reverse.mp hc))

/-- The lines that are not blank, of two rows of lines. -/
theorem filled_append (number : Nat) (before after : List (List Char)) :
    filled number (before ++ after) =
      filled number before ++ filled (number + before.length) after := by
  rw [filled, List.zipIdx_append, List.filter_append, filled, filled]

/-- The elements that are taken, of two rows of lines. -/
theorem taken_append (number : Nat) (before after : List (List Char)) :
    taken fresh number (before ++ after) =
      taken fresh number before ++ taken fresh (number + before.length) after := by
  rw [taken, filled_append, List.filterMap_append, taken, taken]

/-- The lines that are refused, of two rows of lines. -/
theorem refused_append (number : Nat) (before after : List (List Char)) :
    refused fresh number (before ++ after) =
      refused fresh number before ++ refused fresh (number + before.length) after := by
  rw [refused, filled_append, List.filterMap_append, refused, refused]

/-- Under other numbers lines give the same, where each takes the fresh id that it had. -/
theorem filled_moved (number moved : Nat) (lines : List (List Char)) :
    filled (number + moved) lines =
      (filled number lines).map fun (line, n) => (line, n + moved) := by
  induction lines generalizing number with
  | nil => rfl
  | cons line lines ih =>
    -- a blank line is counted and not kept
    have hcons : ∀ n, filled n (line :: lines) = filled n [line] ++ filled (n + 1) lines :=
      fun n => filled_append n [line] lines
    rw [hcons, hcons, List.map_append, ← ih, Nat.add_right_comm]
    congr 1
    by_cases hline : Text.strip line = []
    · simp [filled, hline]
    · simp [filled, hline]

/-- What is taken moves with the numbers of lines, which choose the fresh ids. -/
theorem taken_moved (number moved : Nat) (lines : List (List Char)) :
    taken fresh (number + moved) lines = taken (fun n => fresh (n + moved)) number lines := by
  rw [taken, filled_moved, List.filterMap_map, taken]
  rfl

/-- What is refused moves with the numbers of lines, and keeps its reasons. -/
theorem refused_moved (number moved : Nat) (lines : List (List Char)) :
    refused fresh (number + moved) lines =
      (refused (fun n => fresh (n + moved)) number lines).map fun (n, reason) =>
        (n + moved, reason) := by
  rw [refused, filled_moved, List.filterMap_map, refused, List.map_filterMap]
  congr 1
  funext ⟨line, n⟩
  simp only [Function.comp, Option.map_map]
  rfl

/-- A line holds an element just if something is left of it that describes one. -/
theorem element?_eq (freshId : String) (line : List Char) :
    element? freshId line = if Text.strip line = [] then none else elementOf? freshId line := by
  rw [element?, readLine, elementOf?]
  by_cases hblank : Text.strip line = []
  · rw [if_pos ((strip_eq_nil_iff line).mp hblank), if_pos hblank]
  · rw [if_neg fun hall => hblank ((strip_eq_nil_iff line).mpr hall), if_neg hblank]
    rcases readChars line with (_ | _ | _) | record
    · rfl
    · rfl
    · rfl
    · dsimp only
      rcases Element.ofRecord freshId record with e | e <;> rfl

/-- The elements that a stream holds (`Holds`) are those that its filled lines give. -/
theorem accepted_eq_taken (fresh : Nat → String) (number : Nat) (lines : List (List Char)) :
    accepted fresh number lines = taken fresh number lines := by
  rw [accepted, taken, filled, List.filterMap_filter]
  refine List.filterMap_congr fun x _ => ?_
  dsimp only
  rw [element?_eq]
  by_cases hblank : Text.strip x.1 = []
  · simp [hblank]
  · simp [hblank]

/-- One line that is not blank. -/
theorem folds_one (fresh : Nat → String) (number : Nat) (hline : Text.strip line ≠ []) :
    taken fresh number [line] = (elementOf? (fresh number) line).toList ∧
      refused fresh number [line] = ((refusal? (fresh number) line).map (number, ·)).toList := by
  have hfilled : filled number [line] = [(line, number)] := by simp [filled, hline]
  rw [taken, refused, hfilled, List.filterMap_cons, List.filterMap_cons]
  dsimp only
  constructor
  · rcases elementOf? (fresh number) line with _ | e <;> rfl
  · rcases refusal? (fresh number) line with _ | reason <;> rfl

/-- What a line gives that can be read. -/
theorem lineReading_folds (path : String) (fresh : Nat → String) (number : Nat) (h : Legible line) :
    lineReading path number (readLine (fresh number) line) =
      { elements := taken fresh number [line]
        skipped := (refused fresh number [line]).length
        events := warned path (refused fresh number [line]) } ∧
    (taken fresh number [line]).length + (refused fresh number [line]).length =
      [line].countP (Text.strip · ≠ []) := by
  by_cases hblank : Text.strip line = []
  · have hfilled : filled number [line] = [] := by simp [filled, hblank]
    rw [readLine, if_pos ((strip_eq_nil_iff line).mp hblank), taken, refused, hfilled]
    exact ⟨rfl, by simp [hblank]⟩
  obtain ⟨htaken, hrefused⟩ := folds_one fresh number hblank
  have hone : [line].countP (Text.strip · ≠ []) = 1 := by simp [hblank]
  rw [readLine, if_neg fun hall => hblank ((strip_eq_nil_iff line).mpr hall), htaken, hrefused,
    hone, elementOf?, refusal?]
  -- it is an element, or it is refused with one reason
  rcases hread : readChars line with e | record
  · obtain ⟨m, rfl⟩ := h _ hread
    exact ⟨rfl, rfl⟩
  · dsimp only
    rcases Element.ofRecord (fresh number) record with e | e
    · exact ⟨rfl, rfl⟩
    · exact ⟨rfl, rfl⟩

/-- **Lines are folded.** -/
theorem readLines_folds (path : String) (fresh : Nat → String) (number : Nat)
    (h : ∀ line ∈ lines, Legible line) :
    readLines path fresh number lines =
      { elements := taken fresh number lines
        skipped := (refused fresh number lines).length
        events := warned path (refused fresh number lines) } ∧
    (taken fresh number lines).length + (refused fresh number lines).length =
      lines.countP (Text.strip · ≠ []) := by
  induction lines generalizing number with
  | nil => exact ⟨rfl, rfl⟩
  | cons line lines ih =>
    obtain ⟨hline, hlines⟩ := List.forall_mem_cons.mp h
    obtain ⟨hown, hone⟩ := lineReading_folds path fresh number hline
    obtain ⟨hrest, hcount⟩ := ih (number + 1) hlines
    -- what is told of lines is told of the first one and then of the others
    have htaken : taken fresh number (line :: lines) =
        taken fresh number [line] ++ taken fresh (number + 1) lines :=
      taken_append number [line] lines
    have hrefused : refused fresh number (line :: lines) =
        refused fresh number [line] ++ refused fresh (number + 1) lines :=
      refused_append number [line] lines
    have hcons : (line :: lines).countP (Text.strip · ≠ []) =
        [line].countP (Text.strip · ≠ []) + lines.countP (Text.strip · ≠ []) := by
      rw [← List.countP_append, List.singleton_append]
    rw [readLines_cons, hown, hrest, Reading.append_eq rfl, htaken, hrefused, hcons, ← hone,
      ← hcount]
    refine ⟨?_, ?_⟩
    · simp only [warned, List.map_append, List.length_append]
    · simp only [List.length_append]
      omega

/-! ## Texts

A whole text is the fold of its lines, with one event at the end. Two texts, the first of which ends
a line, are read as one text is. -/

/-- A reading is the fold of lines. -/
structure Folds (path : String) (fresh : Nat → String) (lines : List (List Char)) (r : Reading) :
    Prop where
  fault : r.fault = none
  elements : r.elements = taken fresh 1 lines
  skipped : r.skipped = (refused fresh 1 lines).length
  /-- Every line that is not blank is an element or skipped. -/
  total : r.elements.length + r.skipped = lines.countP (Text.strip · ≠ [])
  events : r.events = warned path (refused fresh 1 lines) ++
    [loadedEvent path r.elements.length r.skipped]

/-- A reading joins two others, of which the second tells numbers that are too small by `moved`. -/
structure Joins (path : String) (moved : Nat) (first second whole : Reading) : Prop where
  elements : whole.elements = first.elements ++ second.elements
  skipped : whole.skipped = first.skipped + second.skipped
  events : ∃ earlier later : List (Nat × String),
    first.events = warned path earlier ++
      [loadedEvent path first.elements.length first.skipped] ∧
    second.events = warned path later ++
      [loadedEvent path second.elements.length second.skipped] ∧
    whole.events = warned path (earlier ++ later.map fun (n, reason) => (n + moved, reason)) ++
      [loadedEvent path whole.elements.length whole.skipped]

/-- A text whose lines can all be read is folded line by line. -/
theorem readText_folds (path : String) (fresh : Nat → String)
    (h : ∀ line ∈ Text.lines text, Legible line) :
    Folds path fresh (Text.lines text) (readText path fresh text) := by
  obtain ⟨hread, htotal⟩ := readLines_folds path fresh 1 h
  rw [readText_eq hread rfl]
  exact ⟨rfl, rfl, rfl, htotal, rfl⟩

/-- Lines behind others give what they give alone. -/
theorem Folds.joins {before after : List (List Char)} {first second whole : Reading}
    (hfirst : Folds path fresh before first)
    (hsecond : Folds path (fun n => fresh (n + before.length)) after second)
    (hwhole : Folds path fresh (before ++ after) whole) :
    Joins path before.length first second whole where
  -- each part of the whole is the part of the first and then that of the second, with its lines
  -- further back
  elements := by
    rw [hwhole.elements, hfirst.elements, hsecond.elements, taken_append, taken_moved]
  skipped := by
    rw [hwhole.skipped, hfirst.skipped, hsecond.skipped, refused_append, refused_moved,
      List.length_append, List.length_map]
  events := by
    refine ⟨_, _, hfirst.events, hsecond.events, ?_⟩
    rw [hwhole.events, refused_append, refused_moved]

/-- **A stream is a fold of its lines.** A text whose lines keep to the limits is read to its end,
and gives the elements of its lines and a warning for each other line that is not blank, in order,
and then the totals. What it gives is what a part of it that ends in a newline gives and what the
rest gives, of which the lines are numbered on. -/
theorem readAt_folds {α : Type} (tree : Tree α) (folder : Place) (path : Path)
    (fresh : Nat → String) (text : List Char)
    (hfile : tree.bytesAt folder path = .ok (String.ofList text).toUTF8)
    (hlimits : ∀ line ∈ Text.lines text, Within 200 line) :
    IsSplit text (Text.lines text) ∧
    ∃ whole, readAt tree folder path fresh = .ok whole ∧
      Folds path.text fresh (Text.lines text) whole ∧
      ∀ (a b : List Char) (left right : Tree α), text = a ++ b → a.getLast? = some '\n' →
        left.bytesAt folder path = .ok (String.ofList a).toUTF8 →
        right.bytesAt folder path = .ok (String.ofList b).toUTF8 →
        ∃ first second, readAt left folder path fresh = .ok first ∧
          readAt right folder path (fun n => fresh (n + (Text.lines a).length)) = .ok second ∧
          Joins path.text (Text.lines a).length first second whole := by
  have hlegible : ∀ line ∈ Text.lines text, Legible line :=
    fun line hline => legible_of_within (by decide) (hlimits line hline)
  have hwhole := readText_folds path.text fresh hlegible
  refine ⟨isSplit_iff.mpr rfl, _, readAt_text text hfile fresh, hwhole, ?_⟩
  rintro a b left right rfl hend hleft hright
  -- the first part ends with a line, so its lines and those of the second are the lines of the
  -- whole
  rw [lines_append hend] at hlegible hwhole
  refine ⟨_, _, readAt_text a hleft fresh, readAt_text b hright _, ?_⟩
  exact (readText_folds _ _ fun line hline => hlegible line (List.mem_append_left _ hline)).joins
    (readText_folds _ _ fun line hline => hlegible line (List.mem_append_right _ hline)) hwhole

/-- A blank line that ends in a carriage return, one that is no JSON, and one of an element. -/
theorem readAt_folds_three :
    let front := " \rnonsense\r\n".toList
    let behind := elementLine plainElement
    let tree : List Char → Tree Unit := fun text =>
      ⟨[(["in.jsonl"], .file (String.ofList text).toUTF8)]⟩
    ∃ whole first second,
      readAt (tree (front ++ behind)) [] ⟨0, ["in.jsonl"]⟩ (fun n => toString n) = .ok whole ∧
      whole.elements = [plainElement] ∧ whole.skipped = 1 ∧
      whole.events = [skippedEvent "in.jsonl" 2 "invalid JSON: Expecting value",
        loadedEvent "in.jsonl" 1 1] ∧
      readAt (tree front) [] ⟨0, ["in.jsonl"]⟩ (fun n => toString n) = .ok first ∧
      readAt (tree behind) [] ⟨0, ["in.jsonl"]⟩ (fun n => toString (n + 2)) = .ok second ∧
      Joins "in.jsonl" 2 first second whole := by
  intro front behind tree
  have hlines : Text.lines (front ++ behind) = [" \n".toList, "nonsense\n".toList, behind] := by
    decide +kernel
  -- what has to be computed is how the lines are cut and what the second of them is refused for
  obtain ⟨-, whole, hwhole, hfolds, hjoins⟩ := readAt_folds (tree (front ++ behind)) []
    ⟨0, ["in.jsonl"]⟩ (fun n => toString n) (front ++ behind) rfl (by rw [hlines]; decide +kernel)
  obtain ⟨first, second, hfirst, hsecond, hjoin⟩ :=
    hjoins front behind (tree front) (tree behind) rfl (by decide +kernel) rfl rfl
  have helements :
      taken (fun n => toString n) 1 (Text.lines (front ++ behind)) = [plainElement] := by
    rw [hlines]
    decide +kernel
  have hrefused : refused (fun n => toString n) 1 (Text.lines (front ++ behind)) =
      [(2, "invalid JSON: Expecting value")] := by
    rw [hlines]
    decide +kernel
  have hskipped := hfolds.skipped
  have hevents := hfolds.events
  rw [hfolds.elements, hskipped, helements, hrefused] at hevents
  rw [hrefused] at hskipped
  exact ⟨whole, first, second, hwhole, hfolds.elements.trans helements, hskipped, hevents, hfirst,
    hsecond, hjoin⟩

end CodeCatalog.Stream
