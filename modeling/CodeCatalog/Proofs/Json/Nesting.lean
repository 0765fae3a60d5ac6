/-
Texts whose whole numbers are short and whose values nest a bounded way are read or malformed.

Both limits are about what stands outside of strings, and of numbers only those that are whole
count. `scan` goes through a text token by token and counts how many lists and objects may still be
opened. It needs no grammar, so it tells of every text, and the reader never sees more of a text
than the scan: behind a value that is read, as many values can be opened as before it. That is what
the three mutual readers carry through the induction on their fuel.
-/
import CodeCatalog.Proofs.Json.Limits

set_option autoImplicit false

namespace CodeCatalog.Json

variable {α β : Type} {levels depth : Nat} {c : Char} {cs rest : List Char}

/-! ## Scanning a text

The scan knows strings, brackets and numbers and nothing of the grammar. It can be stopped and taken
up again at any place outside of a string, which is what lets the reader be followed by it. -/

/-- Whether a character closes a list or an object. -/
def isClosing (c : Char) : Bool :=
  c = ']' || c = '}'

theorem eq_of_isOpening (h : isOpening c = true) : c = '[' ∨ c = '{' := by
  rwa [isOpening, Bool.or_eq_true, decide_eq_true_iff, decide_eq_true_iff] at h

theorem eq_of_isClosing (h : isClosing c = true) : c = ']' ∨ c = '}' := by
  rwa [isClosing, Bool.or_eq_true, decide_eq_true_iff, decide_eq_true_iff] at h

/-- How many characters are left of a string, its closing quote included. -/
def stringLength : List Char → Nat
  | [] => 0
  | '"' :: _ => 1
  | '\\' :: _ :: rest => stringLength rest + 2
  | _ :: rest => stringLength rest + 1

/-- Whether a text keeps within the limits of a reader behind its first `skip` characters, outside
of its strings: at no place are there `levels` more values open than before, and one more opens, and
no number is whole and has too many digits. -/
def scan : (skip levels : Nat) → List Char → Bool
  | _, _, [] => true
  | skip + 1, levels, _ :: cs => scan skip levels cs
  | 0, levels, c :: cs =>
    if c = '"' then scan (stringLength cs) levels cs
    else if isOpening c then levels != 0 && scan 0 (levels - 1) cs
    else if isClosing c then scan 0 (levels + 1) cs
    else if c.isDigit then
      match readNumber (c :: cs) with
      | .ok (_, rest) => scan (cs.length - rest.length) levels cs
      | .error (.malformed _) => scan 0 levels cs
      | .error _ => false
    else scan 0 levels cs

/-- Outside of the strings of a text no more than so many values nest, and no whole number has more
than `Text.maxWholeDigits` digits. -/
def Within (levels : Nat) (cs : List Char) : Prop :=
  scan 0 levels cs = true

instance (levels : Nat) (cs : List Char) : Decidable (Within levels cs) :=
  inferInstanceAs (Decidable (scan 0 levels cs = true))

/-- Characters are passed over. -/
theorem scan_skip (skip levels : Nat) (cs : List Char) :
    scan skip levels cs = scan 0 levels (cs.drop skip) := by
  induction skip generalizing cs with
  | zero => rfl
  | succ skip ih =>
    rcases cs with _ | ⟨c, cs⟩
    · rfl
    · rw [scan, ih, List.drop_succ_cons]

theorem drop_of_suffix (h : rest <:+ cs) : cs.drop (cs.length - rest.length) = rest := by
  obtain ⟨front, rfl⟩ := h
  simp

/-- A character that neither opens nor closes anything and begins no number. -/
def isOther (c : Char) : Bool :=
  c != '"' && !isOpening c && !isClosing c && !c.isDigit

/-- Any other character counts for nothing. -/
theorem within_other (h : isOther c = true) : Within levels (c :: cs) ↔ Within levels cs := by
  simp only [isOther, Bool.and_eq_true, Bool.not_eq_true', bne_iff_ne] at h
  obtain ⟨⟨⟨hquote, hopening⟩, hclosing⟩, hdigit⟩ := h
  simp [Within, scan, hquote, hopening, hclosing, hdigit]

/-- So do any number of such characters. -/
theorem within_others {front : List Char} (h : front.all isOther = true) :
    Within levels (front ++ cs) ↔ Within levels cs := by
  induction front with
  | nil => rfl
  | cons c front ih =>
    rw [List.all_cons, Bool.and_eq_true] at h
    rw [List.cons_append, within_other h.1, ih h.2]

/-- A bracket that opens takes one of the levels that are left. -/
theorem within_opening (hc : isOpening c = true) :
    Within levels (c :: cs) ↔ ∃ fewer, levels = fewer + 1 ∧ Within fewer cs := by
  have hquote : c ≠ '"' := by
    rintro rfl
    exact absurd hc (by decide)
  rcases levels with _ | levels
  · simp [Within, scan, hquote, hc]
  · simp [Within, scan, hquote, hc]

/-- A bracket that closes gives a level back. -/
theorem within_closing (hc : isClosing c = true) :
    Within levels (c :: cs) ↔ Within (levels + 1) cs := by
  have hquote : c ≠ '"' := by
    rintro rfl
    exact absurd hc (by decide)
  have hopening : isOpening c = false := by
    rcases eq_of_isClosing hc with rfl | rfl <;> rfl
  simp [Within, scan, hquote, hopening, hc]

/-! ## Strings

Inside a string the scan and the reader have to agree on where it ends. An escape is never cut in
two by either of them, so both find the same closing quote. -/

/-- What stands behind a string, from behind its opening quote on. -/
def behindString (cs : List Char) : List Char :=
  cs.drop (stringLength cs)

theorem within_quote : Within levels ('"' :: cs) ↔ Within levels (behindString cs) := by
  rw [Within, Within, scan, if_pos rfl, scan_skip, behindString]

theorem behindString_quote (cs : List Char) : behindString ('"' :: cs) = cs := rfl

theorem behindString_escape (c : Char) (cs : List Char) :
    behindString ('\\' :: c :: cs) = behindString cs := rfl

/-- Neither does any other character. -/
theorem behindString_cons (hquote : c ≠ '"') (hescape : c ≠ '\\') (cs : List Char) :
    behindString (c :: cs) = behindString cs := by
  rw [behindString, behindString, stringLength, List.drop_succ_cons]
  · exact fun h => hquote h
  · exact fun _ _ h _ => hescape h

/-- Four hexadecimal digits are in the same string as what follows them. -/
theorem behindString_hexUnit? {n : Nat} (h : hexUnit? cs = some (n, rest)) :
    behindString cs = behindString rest := by
  obtain ⟨a, b, c, d, rfl, _, _, _, _, ha, hb, hc, hd, -⟩ := exists_of_hexUnit? h
  -- none of the four digits is a quote or a backslash
  obtain ⟨ha, ha'⟩ := ne_of_hexValue? ha
  obtain ⟨hb, hb'⟩ := ne_of_hexValue? hb
  obtain ⟨hc, hc'⟩ := ne_of_hexValue? hc
  obtain ⟨hd, hd'⟩ := ne_of_hexValue? hd
  rw [behindString_cons ha ha', behindString_cons hb hb', behindString_cons hc hc',
    behindString_cons hd hd']

/-- So is what is left of a numeric escape, of one code unit or of two. -/
theorem behindString_readUnits (h : readUnits cs = .ok (c, rest)) :
    behindString cs = behindString rest := by
  rw [readUnits] at h
  split at h
  · cases h
  · cases h
  · rename_i n first hfirst
    rw [behindString_hexUnit? hfirst]
    split at h
    · rename_i more hsecond
      split at h
      · cases h
      · rename_i m second hunit
        split at h
        · -- the other half of the pair is an escape of its own
          rw [← (Prod.mk.inj (Except.ok.inj h)).2, ← behindString_hexUnit? hunit]
          rw [secondUnit?.eq_def] at hsecond
          split at hsecond
          · split at hsecond
            · rw [← Option.some.inj hsecond, behindString_escape]
            · cases hsecond
          · cases hsecond
        · rw [← (Prod.mk.inj (Except.ok.inj h)).2]
    · rw [← (Prod.mk.inj (Except.ok.inj h)).2]

/-- What is left of an escape is in the string of its backslash. -/
theorem behindString_readEscape (h : readEscape cs = .ok (c, rest)) :
    behindString ('\\' :: cs) = behindString rest := by
  rcases cs with _ | ⟨letter, tail⟩
  · cases h
  rw [behindString_escape]
  rw [readEscape] at h
  split at h
  · exact behindString_readUnits h
  · -- every other escape is one letter
    have hone : ∀ d, (Except.ok (d, tail) : Except Malformed _) = .ok (c, rest) →
        behindString tail = behindString rest := by
      intro d hd
      rw [(Prod.mk.inj (Except.ok.inj hd)).2]
    repeat' split at h
    all_goals first | exact hone _ h | cases h

/-- A string that is read ends where the scan ends it. -/
theorem behindString_readText {fuel : Nat} {before s : List Char}
    (h : readText fuel before cs = .ok (s, rest)) : behindString cs = rest := by
  induction fuel generalizing before cs with
  | zero => cases h
  | succ fuel ih =>
    rcases cs with _ | ⟨c, tail⟩
    · cases h
    rw [readText] at h
    split at h
    · rename_i hquote
      rw [hquote, behindString_quote, (Prod.mk.inj (Except.ok.inj h)).2]
    · rename_i hquote
      split at h
      · -- an escape is passed as a whole, whatever characters it has
        rename_i hescape
        split at h
        · rename_i d left hread
          rw [hescape, behindString_readEscape hread, ih h]
        · cases h
      · rename_i hescape
        split at h
        · cases h
        · rw [behindString_cons hquote hescape, ih h]

/-! ## Numbers

A number is scanned by reading it, so there is nothing to compare but a sign in front, which the
scan passes over by itself. -/

/-- A digit begins a whole part, and what is left is an end of the text. -/
theorem wholePart?_of_digit (hc : c.isDigit = true) (cs : List Char) :
    ∃ whole rest, wholePart? (c :: cs) = some (whole, rest) ∧ rest <:+ cs := by
  rw [wholePart?.eq_def]
  split
  -- a number is a zero alone or a row of digits
  · rename_i heq
    obtain ⟨rfl, rfl⟩ := List.cons.inj heq
    exact ⟨_, _, rfl, List.suffix_refl _⟩
  · rename_i heq
    obtain ⟨rfl, rfl⟩ := List.cons.inj heq
    rw [if_pos hc]
    refine ⟨_, _, rfl, ?_⟩
    rw [List.dropWhile_cons_of_pos hc]
    exact List.dropWhile_suffix _
  · rename_i heq
    cases heq

/-- Nothing else begins one. -/
theorem wholePart?_of_not_digit (hc : c.isDigit = false) : wholePart? (c :: cs) = none := by
  rw [wholePart?.eq_def]
  split
  · rename_i heq
    rw [(List.cons.inj heq).1] at hc
    exact absurd hc (by decide)
  · rename_i heq
    obtain ⟨rfl, rfl⟩ := List.cons.inj heq
    rw [if_neg (by rw [hc]; decide)]
  · rfl

/-- A number takes its first digit away. -/
theorem readNumber_suffix {v : Value} (hc : c.isDigit = true)
    (h : readNumber (c :: cs) = .ok (v, rest)) : rest <:+ cs := by
  obtain ⟨whole, left, hwhole, hleft⟩ := wholePart?_of_digit hc cs
  rw [readNumber] at h
  · simp only [hwhole] at h
    have hbehind := (fractionPart_suffix left).trans hleft
    -- whatever the reader decides at the point or the exponent, what is left lies behind the digits
    split at h
    · split at h
      · cases h
      · rw [← (Prod.mk.inj (Except.ok.inj h)).2]
        exact hbehind
    · rw [← (Prod.mk.inj (Except.ok.inj h)).2]
      exact hbehind
    · rename_i hexponent
      rw [← (Prod.mk.inj (Except.ok.inj h)).2]
      exact (exponentPart?_suffix hexponent).trans hbehind
  · rintro _ heq
    rw [(List.cons.inj heq).1] at hc
    exact absurd hc (by decide)

/-- A sign changes the value of a number, and nothing else. -/
theorem readNumber_minus (hc : c.isDigit = true) :
    (readNumber ('-' :: c :: cs)).map Prod.snd = (readNumber (c :: cs)).map Prod.snd := by
  obtain ⟨whole, left, hwhole, -⟩ := wholePart?_of_digit hc cs
  rw [readNumber, readNumber]
  -- the sign changes the value and not where the reader stops
  · simp only [hwhole]
    split
    · split
      · rfl
      · simp only [Except.map]
    · simp only [Except.map]
    · simp only [Except.map]
  · rintro _ heq
    rw [(List.cons.inj heq).1] at hc
    exact absurd hc (by decide)

/-! ## Readers

Each of the three readers keeps the count of levels: a value leaves what there was, items and fields
give back the level of their bracket. The induction is on the fuel, for the three at once. -/

/-- An answer to a text within the limits. A reader that gives a value leaves a text within the
limits, and a reader that gives none found the text malformed. -/
def Kept (levels : Nat) : Except ReadError (α × List Char) → Prop
  | .ok (_, rest) => Within levels rest
  | .error (.malformed _) => True
  | .error _ => False

namespace Kept

/-- What the first reader keeps the second one starts from. -/
theorem bind {more : Nat} {x : Except ReadError (α × List Char)}
    {f : α × List Char → Except ReadError (β × List Char)} (hx : Kept levels x)
    (hf : ∀ a rest, Within levels rest → Kept more (f (a, rest))) : Kept more (x >>= f) := by
  rcases x with (_ | _ | _) | ⟨a, rest⟩
  · trivial
  · exact hx
  · exact hx
  · exact hf a rest hx

/-- Only what is left of the text counts, not what was read of it. -/
theorem congr {x y : Except ReadError (α × List Char)} (h : x.map Prod.snd = y.map Prod.snd)
    (hy : Kept levels y) : Kept levels x := by
  rcases x with e | ⟨a, rest⟩ <;> rcases y with e' | ⟨b, rest'⟩
  · obtain rfl : e = e' := Except.error.inj h
    exact hy
  · cases h
  · cases h
  · obtain rfl : rest = rest' := Except.ok.inj h
    exact hy

end Kept

/-- Blanks count for nothing. -/
theorem within_skipSpace (h : Within levels cs) : Within levels (skipSpace cs) := by
  have hspaces : (cs.takeWhile isSpace).all isOther = true := by
    rw [List.all_eq_true]
    intro c hc
    have hspace := List.all_eq_true.mp List.all_takeWhile c hc
    simp only [isSpace, Bool.or_eq_true, decide_eq_true_iff] at hspace
    rcases hspace with ((rfl | rfl) | rfl) | rfl <;> decide
  rw [← List.takeWhile_append_dropWhile (p := isSpace) (l := cs), within_others hspaces] at h
  exact h

/-- Reading a string leaves what is behind it in the scan. -/
theorem kept_readString (fuel : Nat) (h : Within levels ('"' :: cs)) :
    Kept levels (readString fuel cs) := by
  rw [readString]
  split
  · rename_i s rest hread
    rw [within_quote, behindString_readText hread] at h
    exact h
  · trivial

/-- A number is passed over by the scan as the reader takes it. -/
theorem kept_digit (hc : c.isDigit = true) (h : Within levels (c :: cs)) :
    Kept levels (readNumber (c :: cs)) := by
  have hquote : c ≠ '"' := by
    rintro rfl
    exact absurd hc (by decide)
  have hopening : isOpening c = false := by
    rw [Bool.eq_false_iff]
    intro hopening
    rcases eq_of_isOpening hopening with rfl | rfl <;> exact absurd hc (by decide)
  have hclosing : isClosing c = false := by
    rw [Bool.eq_false_iff]
    intro hclosing
    rcases eq_of_isClosing hclosing with rfl | rfl <;> exact absurd hc (by decide)
  -- so the scan asks the reader of numbers itself
  rw [Within, scan, if_neg hquote, hopening, hclosing, hc, if_neg Bool.false_ne_true,
    if_neg Bool.false_ne_true, if_pos rfl] at h
  rcases hread : readNumber (c :: cs) with (m | _ | _) | ⟨v, rest⟩
  · trivial
  · rw [hread] at h
    cases h
  · rw [hread] at h
    cases h
  · rw [hread] at h
    dsimp only at h
    rw [scan_skip, drop_of_suffix (readNumber_suffix hc hread)] at h
    exact h

/-- A number may have a sign in front, which counts for nothing. -/
theorem kept_readNumber (h : Within levels cs) : Kept levels (readNumber cs) := by
  rcases cs with _ | ⟨c, tail⟩
  · trivial
  -- a minus is followed by a digit or there is no number; without one the first character has to be
  -- a digit
  by_cases hminus : c = '-'
  · subst hminus
    rcases tail with _ | ⟨d, tail⟩
    · trivial
    rcases hd : d.isDigit
    · rw [readNumber]
      simp only [wholePart?_of_not_digit hd]
      trivial
    · exact .congr (readNumber_minus hd) (kept_digit hd ((within_other (by decide)).mp h))
  · rcases hc : c.isDigit
    · rw [readNumber]
      · simp only [wholePart?_of_not_digit hc]
        trivial
      · exact fun _ heq => hminus (List.cons.inj heq).1
    · exact kept_digit hc h

/-- A word without brackets, quotes and digits counts for nothing. -/
theorem within_after? {word : List Char} (hword : word.all isOther = true) (h : Within levels cs)
    (hafter : after? word cs = some rest) : Within levels rest := by
  rw [after?] at hafter
  split at hafter
  · rename_i hprefix
    obtain ⟨tail, rfl⟩ := List.isPrefixOf_iff_prefix.mp hprefix
    rw [← Option.some.inj hafter, List.drop_left]
    exact (within_others hword).mp h
  · cases hafter

/-- None of the words that are values counts for anything. -/
theorem within_readWord? {v : Value} (h : Within levels cs)
    (hread : readWord? cs = some (v, rest)) : Within levels rest := by
  obtain ⟨⟨word, value⟩, hmem, hword⟩ := List.exists_of_findSome?_eq_some hread
  obtain ⟨left, hleft, heq⟩ := Option.map_eq_some_iff.mp hword
  have hothers : ∀ w ∈ words, w.1.all isOther = true := by decide +kernel
  rw [← (Prod.mk.inj heq).2]
  exact within_after? (hothers _ hmem) h hleft

section Readers

variable {fuel : Nat}

/-- A value leaves as many levels as there were, since a bracket that it opens it closes. -/
theorem kept_readValue
    (hitems : ∀ levels depth cs, levels ≤ depth → Within levels cs →
      Kept (levels + 1) (readItems fuel depth cs))
    (hfields : ∀ levels depth before cs, levels ≤ depth → Within levels cs →
      Kept (levels + 1) (readFields fuel depth before cs))
    (hdepth : levels ≤ depth) (h : Within levels cs) :
    Kept levels (readValue (fuel + 1) depth cs) := by
  revert levels
  refine readValue_cases
    (motive := fun depth cs r => ∀ {levels}, levels ≤ depth → Within levels cs → Kept levels r)
    ?nothing ?text ?deep ?emptyList ?list ?emptyObject ?object ?word ?number depth cs
  case nothing => exact fun _ _ _ _ => trivial
  case text => exact fun _ _ _ _ h => (kept_readString fuel h).bind fun _ _ hrest => hrest
  case deep =>
    intro c rest hopening levels hdepth h
    obtain ⟨fewer, rfl, -⟩ := (within_opening hopening).mp h
    exact absurd hdepth (Nat.not_succ_le_zero fewer)
  case emptyList =>
    intro depth rest left heq levels _ h
    obtain ⟨fewer, rfl, hrest⟩ := (within_opening rfl).mp h
    exact (within_closing rfl).mp (heq ▸ within_skipSpace hrest)
  case emptyObject =>
    intro depth rest left heq levels _ h
    obtain ⟨fewer, rfl, hrest⟩ := (within_opening rfl).mp h
    exact (within_closing rfl).mp (heq ▸ within_skipSpace hrest)
  -- the items and fields are read with one level less, and the character behind them gives it back
  case list =>
    intro depth rest levels hdepth h
    obtain ⟨fewer, rfl, hrest⟩ := (within_opening rfl).mp h
    exact (hitems fewer depth _ (Nat.le_of_succ_le_succ hdepth) (within_skipSpace hrest)).bind
      fun _ _ hleft => hleft
  case object =>
    intro depth rest levels hdepth h
    obtain ⟨fewer, rfl, hrest⟩ := (within_opening rfl).mp h
    exact (hfields fewer depth [] _ (Nat.le_of_succ_le_succ hdepth) (within_skipSpace hrest)).bind
      fun _ _ hleft => hleft
  case word => exact fun _ _ _ _ hfound _ _ h => within_readWord? h hfound
  case number => exact fun _ _ _ _ h => kept_readNumber h

/-- Items are read with one level less, and their bracket gives it back. -/
theorem kept_readItems
    (hvalue : ∀ levels depth cs, levels ≤ depth → Within levels cs →
      Kept levels (readValue fuel depth cs))
    (hitems : ∀ levels depth cs, levels ≤ depth → Within levels cs →
      Kept (levels + 1) (readItems fuel depth cs))
    (hdepth : levels ≤ depth) (h : Within levels cs) :
    Kept (levels + 1) (readItems (fuel + 1) depth cs) := by
  rw [readItems]
  refine (hvalue levels depth cs hdepth h).bind fun v rest hrest => ?_
  have hspace := within_skipSpace hrest
  simp only
  -- behind an item comes the end of the list, a comma with more items, or a fault
  split
  · rename_i left heq
    rw [heq] at hspace
    exact (within_closing (by rfl)).mp hspace
  · rename_i left heq
    rw [heq] at hspace
    have hleft := within_skipSpace ((within_other (by decide)).mp hspace)
    exact (hitems levels depth _ hdepth hleft).bind fun _ _ hend => hend
  · trivial

/-- Fields are read with one level less, and their bracket gives it back. -/
theorem kept_readFields
    (hvalue : ∀ levels depth cs, levels ≤ depth → Within levels cs →
      Kept levels (readValue fuel depth cs))
    (hfields : ∀ levels depth before cs, levels ≤ depth → Within levels cs →
      Kept (levels + 1) (readFields fuel depth before cs))
    (hdepth : levels ≤ depth) (before : Fields) (h : Within levels cs) :
    Kept (levels + 1) (readFields (fuel + 1) depth before cs) := by
  rw [readFields]
  split
  · rename_i quoted hquote
    -- the key begins with its quote, which is no part of what is left behind it
    have hquoted : Within levels ('"' :: quoted) := by
      rw [after?] at hquote
      split at hquote
      · rename_i hprefix
        obtain ⟨tail, rfl⟩ := List.isPrefixOf_iff_prefix.mp hprefix
        rw [← Option.some.inj hquote, List.drop_left]
        exact h
      · cases hquote
    refine (kept_readString fuel hquoted).bind fun key rest hkey => ?_
    simp only
    split
    · rename_i colon hcolon
      have hbehind := within_skipSpace (within_after? (by decide) (within_skipSpace hkey) hcolon)
      refine (hvalue levels depth _ hdepth hbehind).bind fun v left hleft => ?_
      have hspace := within_skipSpace hleft
      simp only
      split
      · rename_i ended heq
        rw [heq] at hspace
        exact (within_closing (by rfl)).mp hspace
      · rename_i more heq
        rw [heq] at hspace
        exact hfields levels depth _ _ hdepth
          (within_skipSpace ((within_other (by decide)).mp hspace))
      · trivial
    · trivial
  · trivial

end Readers

/-- The three readers, by induction on the fuel that they share. -/
theorem kept_readers (fuel : Nat) :
    (∀ levels depth cs, levels ≤ depth → Within levels cs →
      Kept levels (readValue fuel depth cs)) ∧
    (∀ levels depth cs, levels ≤ depth → Within levels cs →
      Kept (levels + 1) (readItems fuel depth cs)) ∧
    (∀ levels depth before cs, levels ≤ depth → Within levels cs →
      Kept (levels + 1) (readFields fuel depth before cs)) := by
  -- the three readers call each other with less fuel
  induction fuel with
  | zero => exact ⟨fun _ _ _ _ _ => trivial, fun _ _ _ _ _ => trivial, fun _ _ _ _ _ _ => trivial⟩
  | succ fuel ih =>
    obtain ⟨hvalue, hitems, hfields⟩ := ih
    exact ⟨fun _ _ _ => kept_readValue hitems hfields, fun _ _ _ => kept_readItems hvalue hitems,
      fun _ _ before _ hdepth => kept_readFields hvalue hfields hdepth before⟩

/-- **A text within the limits is read or malformed.** -/
theorem legible_of_within (hlevels : levels ≤ maxDepth) (h : Within levels cs) : Legible cs := by
  have hread := (kept_readers (2 * cs.length + 2)).1 levels maxDepth _ hlevels (within_skipSpace h)
  refine legible_of_readValue fun e he => ?_
  rw [he] at hread
  rcases e with m | n | _
  · exact ⟨m, rfl⟩
  · exact hread.elim
  · exact hread.elim

end CodeCatalog.Json
