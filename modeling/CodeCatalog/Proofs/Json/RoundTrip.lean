/-
Reading what was written: `readChars (renderChars v) = .ok v`.

The writer works character by character and the reader takes characters away, so every lemma has the
same form: the reader, started on what the writer made of one thing and some text behind it, gives
that thing back and leaves the text behind. The leaves come first (hexadecimal digits, escapes,
strings, whole numbers), then values, items and fields together, since each of the three is read by
calling the others.

Two things have to be carried along. Numbers end where the text behind them does not go on with a
digit, a point or an exponent (`Ends`), and the fuel that is left must be twice the text that is
left, which each pair of calls pays for with the character that it takes away.
-/
import CodeCatalog.Json.Printer
import CodeCatalog.Json.Reader
import Mathlib.Data.List.TakeWhile
import Mathlib.Tactic

set_option autoImplicit false

namespace CodeCatalog.Json

/-! ## Hexadecimal digits

The leaves of escapes. Four digits are written for a code unit, and four are read. -/

theorem hexValue?_hexDigit : ∀ n < 16, hexValue? (Text.hexDigit n) = some n := by decide

/-- The four digits of a code unit are read back. -/
theorem hexUnit?_hexDigits (n : Nat) (hn : n < 65536) (rest : List Char) :
    hexUnit? (Text.hexDigits 4 n ++ rest) = some (n, rest) := by
  have h₀ := hexValue?_hexDigit (n % 16) (by omega)
  have h₁ := hexValue?_hexDigit (n / 16 % 16) (by omega)
  have h₂ := hexValue?_hexDigit (n / 16 / 16 % 16) (by omega)
  have h₃ := hexValue?_hexDigit (n / 16 / 16 / 16 % 16) (by omega)
  simp only [Text.hexDigits, List.nil_append, List.cons_append, hexUnit?, h₀, h₁, h₂, h₃]
  simp only [bind, Option.bind, pure, Option.some.injEq, Prod.mk.injEq, and_true]
  -- four digits are enough for a number below `16 ^ 4`
  omega

/-- What is read as a code unit begins with four hexadecimal digits, and they write the unit. -/
theorem exists_of_hexUnit? {cs rest : List Char} {n : Nat} (h : hexUnit? cs = some (n, rest)) :
    ∃ a b c d, cs = a :: b :: c :: d :: rest ∧ ∃ i j k l, hexValue? a = some i ∧
      hexValue? b = some j ∧ hexValue? c = some k ∧ hexValue? d = some l ∧
      n = ((i * 16 + j) * 16 + k) * 16 + l := by
  rcases cs with _ | ⟨a, _ | ⟨b, _ | ⟨c, _ | ⟨d, tail⟩⟩⟩⟩
  · cases h
  · cases h
  · cases h
  · cases h
  · simp only [hexUnit?, Option.bind_eq_bind, Option.bind_eq_some_iff, Option.pure_def,
      Option.some.injEq, Prod.mk.injEq] at h
    obtain ⟨i, ha, j, hb, k, hc, l, hd, hn, rfl⟩ := h
    exact ⟨a, b, c, d, rfl, i, j, k, l, ha, hb, hc, hd, hn.symm⟩

/-- A hexadecimal digit ends no string and begins no escape. -/
theorem ne_of_hexValue? {c : Char} {n : Nat} (h : hexValue? c = some n) : c ≠ '"' ∧ c ≠ '\\' := by
  constructor
  · rintro rfl
    have hnone : hexValue? '"' = none := by decide
    rw [hnone] at h
    cases h
  · rintro rfl
    have hnone : hexValue? '\\' = none := by decide
    rw [hnone] at h
    cases h

/-- As many digits are written as are asked for. -/
theorem length_hexDigits (width n : Nat) : (Text.hexDigits width n).length = width := by
  induction width generalizing n with
  | zero => rfl
  | succ width ih => rw [Text.hexDigits, List.length_append, ih]; rfl

/-! ## Escapes

There are nine ways to write a character, one for each branch of `escapeChar`. Each is read back as
one step of reading a string. -/

/-- A character's code point is not half a pair. -/
theorem not_half (c : Char) :
    isHighHalf c.toNat = false ∧ isLowHalf c.toNat = false := by
  -- halves of pairs are exactly what characters leave out
  have hvalid := c.valid
  have hc : c.val.toNat = c.toNat := rfl
  simp only [UInt32.isValidChar, Nat.isValidChar, hc] at hvalid
  simp only [isHighHalf, isLowHalf, Bool.and_eq_false_iff, decide_eq_false_iff_not]
  omega

/-- Characters end below the seventeenth plane. -/
theorem toNat_lt (c : Char) : c.toNat < 0x110000 := by
  have hvalid := c.valid
  have hc : c.val.toNat = c.toNat := rfl
  simp only [UInt32.isValidChar, Nat.isValidChar, hc] at hvalid
  omega

/-- A character's code point is read as that character, since it is no half of a pair. -/
theorem unitChar_toNat (c : Char) : unitChar c.toNat = c := by
  obtain ⟨hhigh, hlow⟩ := not_half c
  rw [unitChar, hhigh, hlow]
  simp

/-- A code unit on its own is read back, unless the text ends with it. -/
theorem readUnits_hexDigits (c : Char) (hc : c.toNat < 65536) {rest : List Char}
    (hrest : rest ≠ []) :
    readUnits (Text.hexDigits 4 c.toNat ++ rest) = .ok (c, rest) := by
  obtain ⟨d, more, rfl⟩ := List.exists_cons_of_ne_nil hrest
  rw [readUnits, hexUnit?_hexDigits _ hc]
  simp only [(not_half c).1, unitChar_toNat]

/-- A pair of code units is read back as the character that it writes. -/
theorem readUnits_pair {c : Char} {high low : Nat} (hhigh : isHighHalf high = true)
    (hlow : isLowHalf low = true)
    (hc : 0x10000 + (high - 0xD800) * 0x400 + (low - 0xDC00) = c.toNat) {rest : List Char}
    (hrest : rest ≠ []) :
    readUnits (Text.hexDigits 4 high ++ (unitEscape low ++ rest)) = .ok (c, rest) := by
  have hh : high < 65536 := by
    simp only [isHighHalf, Bool.and_eq_true, decide_eq_true_eq] at hhigh
    omega
  have hl : low < 65536 := by
    simp only [isLowHalf, Bool.and_eq_true, decide_eq_true_eq] at hlow
    omega
  -- the reader looks for a second unit only if more than four characters are left, so something has
  -- to stand behind the pair
  have hlen : 4 < (Text.hexDigits 4 low ++ rest).length := by
    rw [List.length_append, length_hexDigits]
    have := List.length_pos_iff.mpr hrest
    omega
  rw [readUnits, hexUnit?_hexDigits _ hh]
  simp only [unitEscape, List.cons_append, secondUnit?, if_pos hlen, hhigh,
    hexUnit?_hexDigits _ hl, hlow, if_true, hc, Char.ofNat_toNat]

/-- One more step of reading a string, past an escape. -/
theorem readText_backslash {fuel : Nat} {before cs rest : List Char} {c : Char}
    (h : readEscape cs = .ok (c, rest)) :
    readText (fuel + 1) before ('\\' :: cs) = readText fuel (c :: before) rest := by
  rw [readText, if_neg (by decide), if_pos rfl, h]

/-- **One character.** What is written for it is read as that character. A string goes on behind it,
at least with its closing quote. -/
theorem readText_escapeChar (fuel : Nat) (before : List Char) (c : Char) {rest : List Char}
    (hrest : rest ≠ []) :
    readText (fuel + 1) before (escapeChar c ++ rest) = readText fuel (c :: before) rest := by
  simp only [escapeChar]
  split
  · -- a quote or a backslash stands for itself
    next h =>
    refine readText_backslash ?_
    rcases h with rfl | rfl <;> rfl
  split
  · next h => subst h; exact readText_backslash rfl
  split
  · next h => subst h; exact readText_backslash rfl
  split
  · next h => subst h; exact readText_backslash rfl
  split
  · -- a backspace, known by its number only
    next h =>
    have hc : Char.ofNat 8 = c := h ▸ Char.ofNat_toNat c
    rw [← hc]
    exact readText_backslash rfl
  split
  · next h =>
    have hc : Char.ofNat 12 = c := h ▸ Char.ofNat_toNat c
    rw [← hc]
    exact readText_backslash rfl
  split
  · -- a printable character is written as it is
    next hquote _ _ _ _ _ h =>
    simp only [not_or] at hquote
    rw [List.singleton_append, readText, if_neg hquote.1, if_neg hquote.2, if_neg (by omega)]
  split
  · -- one code unit
    next h =>
    rw [unitEscape, List.cons_append, List.cons_append]
    refine readText_backslash ?_
    rw [readEscape, if_pos rfl]
    exact readUnits_hexDigits c (by omega) hrest
  · -- a pair of code units, for what is beyond 16 bits
    next h =>
    have hlast := toNat_lt c
    rw [List.append_assoc, unitEscape, List.cons_append, List.cons_append]
    refine readText_backslash ?_
    rw [readEscape, if_pos rfl]
    refine readUnits_pair ?_ ?_ (by omega) hrest
    · simp only [isHighHalf, Bool.and_eq_true, decide_eq_true_eq]
      omega
    · simp only [isLowHalf, Bool.and_eq_true, decide_eq_true_eq]
      omega

/-- Something is written for each character. -/
theorem escapeChar_ne_nil (c : Char) : escapeChar c ≠ [] := by
  have hunit : ∀ n cs, unitEscape n ++ cs ≠ [] := fun n cs => List.cons_ne_nil _ _
  rw [escapeChar]
  split_ifs
  · exact List.cons_ne_nil _ _
  · exact List.cons_ne_nil _ _
  · exact List.cons_ne_nil _ _
  · exact List.cons_ne_nil _ _
  · exact List.cons_ne_nil _ _
  · exact List.cons_ne_nil _ _
  · exact List.cons_ne_nil _ _
  · exact List.cons_ne_nil _ _
  · exact hunit _ _

/-! ## Strings

A string is read back character by character. Each character that was written costs one unit of fuel
and makes at least one character of text. -/

/-- The characters of a string are read up to its closing quote. -/
theorem readText_escaped (cs before rest : List Char) {fuel : Nat} (hfuel : cs.length < fuel) :
    readText fuel before (cs.flatMap escapeChar ++ '"' :: rest)
      = .ok (before.reverse ++ cs, rest) := by
  induction cs generalizing fuel before with
  | nil =>
    obtain ⟨fuel, rfl⟩ : ∃ f, fuel = f + 1 := ⟨fuel - 1, by omega⟩
    rw [List.flatMap_nil, List.nil_append, readText, if_pos rfl, List.append_nil]
  | cons c cs ih =>
    rw [List.length_cons] at hfuel
    obtain ⟨fuel, rfl⟩ : ∃ f, fuel = f + 1 := ⟨fuel - 1, by omega⟩
    rw [List.flatMap_cons, List.append_assoc, readText_escapeChar fuel before c (by simp),
      ih (c :: before) (by omega), List.reverse_cons, List.append_assoc, List.singleton_append]

/-- Escaping makes no text shorter, so the fuel for the written text is enough for its characters.
-/
theorem length_le_escaped (cs : List Char) : cs.length ≤ (cs.flatMap escapeChar).length := by
  induction cs with
  | nil => simp
  | cons c cs ih =>
    have := List.length_pos_iff.mpr (escapeChar_ne_nil c)
    rw [List.flatMap_cons, List.length_append, List.length_cons]
    omega

theorem length_renderText (s : String) :
    (renderText s).length = (s.toList.flatMap escapeChar).length + 2 := by
  simp [renderText]

/-- **Strings.** A text is read back from behind its opening quote. -/
theorem readString_renderText (s : String) (rest : List Char) {fuel : Nat}
    (hfuel : (renderText s).length ≤ fuel + 1) :
    readString fuel (s.toList.flatMap escapeChar ++ '"' :: rest) = .ok (s, rest) := by
  have hlen := length_le_escaped s.toList
  rw [length_renderText] at hfuel
  rw [readString, readText_escaped _ _ _ (by omega)]
  simp

/-! ## Numbers

A whole number is written in decimal digits, without zeros in front. It is read back where no
further digit, point or exponent follows, which is so before a comma, a bracket or the end. -/

/-- No number goes on into the text: it does not begin with a digit, a point or an exponent. -/
def Ends (rest : List Char) : Prop :=
  ∀ c ∈ rest.head?, c.isDigit = false ∧ c ≠ '.' ∧ c ≠ 'e' ∧ c ≠ 'E'

theorem ends_nil : Ends [] := by simp [Ends]

theorem ends_cons {c : Char} {rest : List Char}
    (h : c.isDigit = false ∧ c ≠ '.' ∧ c ≠ 'e' ∧ c ≠ 'E') : Ends (c :: rest) := by
  simpa [Ends] using h

/-- Where no number goes on, no fraction is read. -/
theorem fractionPart_of_ends {rest : List Char} (h : Ends rest) :
    fractionPart rest = ([], rest) := by
  rcases rest with _ | ⟨c, rest⟩
  · rfl
  · have hc := (h c (by simp)).2.1
    rw [fractionPart]
    intro _ heq
    exact hc (List.cons.inj heq).1

/-- Where no number goes on, no exponent is read. -/
theorem exponentPart?_of_ends {rest : List Char} (h : Ends rest) : exponentPart? rest = none := by
  rcases rest with _ | ⟨c, rest⟩
  · rfl
  · have hc := (h c (by simp)).2.2
    rw [exponentPart?, if_neg (by simp [hc.1, hc.2])]

/-- The value of digits is the number that they write. -/
theorem decimalValue_toDigits (n : Nat) : decimalValue (Nat.toDigits 10 n) = n := by
  have h := Nat.ofDigitChars_toDigits (b := 10) (n := n) (by omega) (by omega)
  rw [Nat.ofDigitChars] at h
  rw [decimalValue, Text.digitsValue, List.foldl_map]
  exact h

/-- Only zero is written with a zero in front. -/
theorem head_toDigits_ne_zero {n : Nat} (hn : n ≠ 0) (ds : List Char) :
    Nat.toDigits 10 n ≠ '0' :: ds := by
  induction n using Nat.strong_induction_on generalizing ds with
  | _ n ih =>
    by_cases hlt : n < 10
    · rw [Nat.toDigits_of_lt_base hlt]
      intro h
      exact hn (Nat.digitChar_eq_zero.mp (List.cons.inj h).1)
    · rw [Nat.toDigits_of_base_le (by omega) (by omega)]
      intro h
      -- the first digit is the first one of the number without its last digit
      rcases hds : Nat.toDigits 10 (n / 10) with _ | ⟨d, more⟩
      · exact Nat.toDigits_ne_nil hds
      · rw [hds, List.cons_append] at h
        rw [(List.cons.inj h).1] at hds
        exact ih (n / 10) (by omega) (by omega) more hds

/-- The digits of a number are read as its whole part. -/
theorem wholePart?_toDigits (n : Nat) {rest : List Char} (h : Ends rest) :
    wholePart? (Nat.toDigits 10 n ++ rest) = some (Nat.toDigits 10 n, rest) := by
  have hdigits : ∀ c ∈ Nat.toDigits 10 n, c.isDigit = true := fun c hc =>
    Nat.isDigit_of_mem_toDigits (by omega) (by omega) hc
  -- the digits end where the text behind them begins
  have htake : (Nat.toDigits 10 n ++ rest).takeWhile Char.isDigit = Nat.toDigits 10 n ∧
      (Nat.toDigits 10 n ++ rest).dropWhile Char.isDigit = rest := by
    rw [List.takeWhile_append_of_pos hdigits, List.dropWhile_append_of_pos hdigits]
    rcases rest with _ | ⟨c, rest⟩
    · simp
    · have hc := (h c (by simp)).1
      simp [hc]
  by_cases hn : n = 0
  · subst hn
    rw [Nat.toDigits_zero]
    rfl
  · rcases hds : Nat.toDigits 10 n with _ | ⟨d, ds⟩
    · exact absurd hds Nat.toDigits_ne_nil
    · have hd : d.isDigit = true := hdigits d (by rw [hds]; simp)
      have hzero : d ≠ '0' := by
        rintro rfl
        exact head_toDigits_ne_zero hn ds hds
      rw [hds] at htake
      rw [List.cons_append] at htake ⊢
      rw [wholePart?, if_pos hd, htake.1, htake.2]
      exact hzero

/-- A number behind its sign. -/
theorem readNumber_digits (n : Nat) {rest : List Char} (hends : Ends rest)
    (hlen : (Nat.toDigits 10 n).length ≤ Text.maxWholeDigits) :
    readNumber (Nat.toDigits 10 n ++ rest) = .ok (.int n, rest) ∧
      readNumber ('-' :: (Nat.toDigits 10 n ++ rest)) = .ok (.int (-n), rest) := by
  have hwhole := wholePart?_toDigits n hends
  constructor
  · -- a digit stands in front, so no sign does
    rcases hds : Nat.toDigits 10 n with _ | ⟨d, ds⟩
    · exact absurd hds Nat.toDigits_ne_nil
    have hd : d ≠ '-' := by
      rintro rfl
      have := Nat.isDigit_of_mem_toDigits (b := 10) (n := n) (c := '-') (by omega) (by omega)
        (by rw [hds]; simp)
      exact absurd this (by decide)
    rw [hds] at hwhole hlen
    rw [List.cons_append] at hwhole ⊢
    rw [readNumber]
    · simp only [hwhole, fractionPart_of_ends hends, exponentPart?_of_ends hends,
        if_neg (Nat.not_lt.mpr hlen)]
      rw [← hds, decimalValue_toDigits]
      simp
    · intro _ heq
      exact hd (List.cons.inj heq).1
  · rw [readNumber]
    simp only [hwhole, fractionPart_of_ends hends, exponentPart?_of_ends hends,
      if_neg (Nat.not_lt.mpr hlen), decimalValue_toDigits]
    simp

theorem renderChars_ofNat (m : Nat) : renderChars (.int (.ofNat m)) = Nat.toDigits 10 m := by
  show (Nat.repr m).toList = _
  simp [Nat.repr]

/-- A number below zero is written by a sign and digits. -/
theorem renderChars_negSucc (m : Nat) :
    renderChars (.int (.negSucc m)) = '-' :: Nat.toDigits 10 (m + 1) := by
  show ("-" ++ Nat.repr (m + 1)).toList = _
  simp [Nat.repr]

/-- A whole number that is not too long to be read. -/
def ReadableWhole (n : Int) : Prop :=
  (Nat.toDigits 10 n.natAbs).length ≤ Text.maxWholeDigits

instance (n : Int) : Decidable (ReadableWhole n) := inferInstanceAs (Decidable (_ ≤ _))

/-- **Whole numbers.** A number that is not too long is read back. -/
theorem readNumber_renderChars {n : Int} {rest : List Char} (hends : Ends rest)
    (hlen : ReadableWhole n) :
    readNumber (renderChars (.int n) ++ rest) = .ok (.int n, rest) := by
  rcases n with m | m
  · rw [renderChars_ofNat]
    exact (readNumber_digits m hends hlen).1
  · rw [renderChars_negSucc, Int.negSucc_eq]
    exact (readNumber_digits (m + 1) hends hlen).2

/-! ## Values

A value is `Plain` if it can be written so that it is read back: no floating-point numbers, whole
numbers that are not too long, no key twice in an object, and lists and objects that nest no deeper
than the reader goes. -/

/-- A value that is read back as it was written, nesting at most so deep. -/
inductive Plain : (depth : Nat) → Value → Prop
  | null {depth : Nat} : Plain depth .null
  | bool {depth : Nat} (b : Bool) : Plain depth (.bool b)
  | int {depth : Nat} {n : Int} (hlen : ReadableWhole n) :
      Plain depth (.int n)
  | text {depth : Nat} (s : String) : Plain depth (.text s)
  | list {depth : Nat} {items : List Value} (hitems : ∀ v ∈ items, Plain depth v) :
      Plain (depth + 1) (.list items)
  | object {depth : Nat} {fields : Fields} (hkeys : (fields.map (·.1)).Nodup)
      (hfields : ∀ f ∈ fields, Plain depth f.2) : Plain (depth + 1) (.object fields)

/-- The text of the value is read as the value, with whatever ends a number behind it. -/
def ReadsBack (depth : Nat) (v : Value) : Prop :=
  ∀ fuel rest, Ends rest → 2 * (renderChars v).length ≤ fuel →
    readValue fuel depth (renderChars v ++ rest) = .ok (v, rest)

/-- Items are written one by one. -/
theorem renderItems_eq_map (items : List Value) : renderItems items = items.map renderChars := by
  induction items with
  | nil => rfl
  | cons v items ih => rw [renderItems, ih, List.map_cons]

/-- Fields are written one by one, each with its key, a colon and a blank. -/
theorem renderFields_eq_map (fields : Fields) :
    renderFields fields = fields.map fun f => renderText f.1 ++ ':' :: ' ' :: renderChars f.2 := by
  induction fields with
  | nil => rfl
  | cons f fields ih => rw [renderFields, ih, List.map_cons]

/-- A comma and a blank stand between the first text and those that follow it. -/
theorem commaJoin_cons (x : List Char) {rest : List (List Char)} (h : rest ≠ []) :
    commaJoin (x :: rest) = x ++ ',' :: ' ' :: commaJoin rest := by
  obtain ⟨y, more, rfl⟩ := List.exists_cons_of_ne_nil h
  rfl

/-! ### First characters

The first character of a text decides how it is read. What a value begins with is never a blank, so
nothing in front of it is skipped by mistake. -/

/-- A number begins with a digit. -/
theorem toDigits_head (n : Nat) :
    ∃ c cs, Nat.toDigits 10 n = c :: cs ∧ c.isDigit = true := by
  rcases hds : Nat.toDigits 10 n with _ | ⟨c, cs⟩
  · exact absurd hds Nat.toDigits_ne_nil
  · have hc : c ∈ Nat.toDigits 10 n := by rw [hds]; simp
    exact ⟨c, cs, rfl, Nat.isDigit_of_mem_toDigits (by decide) (by decide) hc⟩

/-- What a value can begin with: no blank, no bracket that closes a list, and no byte order mark. -/
def Opens (c : Char) : Prop :=
  isSpace c = false ∧ c ≠ ']' ∧ c ≠ '\uFEFF'

instance (c : Char) : Decidable (Opens c) := inferInstanceAs (Decidable (_ ∧ _))

/-- A value can begin with a digit. -/
theorem opens_of_isDigit {c : Char} (hc : c.isDigit = true) : Opens c := by
  refine ⟨?_, ?_, ?_⟩
  · by_contra hspace
    simp only [isSpace, Bool.not_eq_false, Bool.or_eq_true, decide_eq_true_eq] at hspace
    rcases hspace with ((rfl | rfl) | rfl) | rfl <;> exact absurd hc (by decide)
  · rintro rfl
    exact absurd hc (by decide)
  · rintro rfl
    exact absurd hc (by decide)

/-- The text of a plain value begins like a value. -/
theorem Plain.head {depth : Nat} {v : Value} (h : Plain depth v) :
    ∃ c cs, renderChars v = c :: cs ∧ Opens c := by
  -- the first character tells the forms apart; that of a number is a digit or a minus
  cases h with
  | null => exact ⟨'n', _, rfl, by decide⟩
  | bool b =>
    cases b
    · exact ⟨'f', _, rfl, by decide⟩
    · exact ⟨'t', _, rfl, by decide⟩
  | @int _ n hlen =>
    rcases n with m | m
    · obtain ⟨c, cs, hcs, hc⟩ := toDigits_head m
      exact ⟨c, cs, (renderChars_ofNat m).trans hcs, opens_of_isDigit hc⟩
    · exact ⟨'-', _, renderChars_negSucc m, by decide⟩
  | text s => exact ⟨'"', _, rfl, by decide⟩
  | list hitems => exact ⟨'[', _, rfl, by decide⟩
  | object hkeys hfields => exact ⟨'{', _, rfl, by decide⟩

theorem skipSpace_cons {c : Char} {cs : List Char} (h : Opens c) :
    skipSpace (c :: cs) = c :: cs := by
  rw [skipSpace, List.dropWhile_cons_of_neg (by simp [h.1])]

theorem skipSpace_blank (cs : List Char) : skipSpace (' ' :: cs) = skipSpace cs := by
  rw [skipSpace, List.dropWhile_cons_of_pos (by decide), skipSpace]

/-- Nothing is skipped in front of a value. -/
theorem Plain.skipSpace {depth : Nat} {v : Value} (h : Plain depth v) (rest : List Char) :
    skipSpace (renderChars v ++ rest) = renderChars v ++ rest := by
  obtain ⟨c, cs, hcs, hc⟩ := h.head
  rw [hcs, List.cons_append, skipSpace_cons hc]

/-! ### Leaves

Words, whole numbers and texts do not call any other reader, so they are read back without an
induction. -/

/-- A quote begins a string. -/
theorem readValue_quote (fuel depth : Nat) (rest : List Char) :
    readValue (fuel + 1) depth ('"' :: rest) =
      (readString fuel rest).bind fun (s, rest) => .ok (.text s, rest) := by
  rw [readValue.eq_def]
  rfl

/-- What begins with neither a quote nor a bracket is a word or a number. -/
theorem readValue_leaf (fuel depth : Nat) {c : Char} (rest : List Char)
    (hc : c ≠ '"' ∧ c ≠ '[' ∧ c ≠ '{') :
    readValue (fuel + 1) depth (c :: rest) =
      (readWord? (c :: rest)).elim (readNumber (c :: rest)) .ok := by
  obtain ⟨hquote, hbracket, hbrace⟩ := hc
  rw [readValue.eq_def]
  simp only [if_neg hquote, if_neg hbracket, if_neg hbrace]
  cases readWord? (c :: rest) <;> rfl

/-- A word that is read as a value is read back where that value is written by it. -/
theorem readsBack_word {depth : Nat} {v : Value} (c : Char) (cs : List Char)
    (hv : renderChars v = c :: cs) (hc : c ≠ '"' ∧ c ≠ '[' ∧ c ≠ '{')
    (hword : ∀ rest, readWord? (c :: cs ++ rest) = some (v, rest)) : ReadsBack depth v := by
  intro fuel rest _ hfuel
  rw [hv, List.length_cons] at hfuel
  obtain ⟨fuel, rfl⟩ : ∃ f, fuel = f + 1 := ⟨fuel - 1, by omega⟩
  rw [hv, List.cons_append, readValue_leaf fuel depth _ hc, ← List.cons_append, hword]
  rfl

theorem after?_self (word cs : List Char) : after? word (word ++ cs) = some cs := by
  rw [after?, if_pos (List.isPrefixOf_iff_prefix.mpr (List.prefix_append word cs)),
    List.drop_left]

/-- A word is compared character by character. -/
theorem after?_cons (w c : Char) (word cs : List Char) :
    after? (w :: word) (c :: cs) = if w = c then after? word cs else none := by
  by_cases h : w = c
  · subst h
    rw [if_pos rfl, after?, after?, List.isPrefixOf, beq_self_eq_true, Bool.true_and]
    rfl
  · rw [if_neg h, after?, List.isPrefixOf, beq_eq_false_iff_ne.mpr h]
    rfl

theorem after?_of_ne {w c : Char} {word cs : List Char} (h : w ≠ c) :
    after? (w :: word) (c :: cs) = none := by
  rw [after?_cons, if_neg h]

/-- A text that begins with a digit, or with a sign and no capital letter, begins with no word. -/
theorem readWord?_of_head {c : Char} {cs : List Char}
    (hc : c ≠ 'n' ∧ c ≠ 't' ∧ c ≠ 'f' ∧ c ≠ 'N' ∧ c ≠ 'I')
    (hcs : c = '-' → cs.head? ≠ some 'I') : readWord? (c :: cs) = none := by
  obtain ⟨hn, ht, hf, hN, hI⟩ := hc
  have hminus : after? "-Infinity".toList (c :: cs) = none := by
    show after? ('-' :: 'I' :: "nfinity".toList) (c :: cs) = none
    rw [after?_cons]
    by_cases h : '-' = c
    · rw [if_pos h]
      rcases cs with _ | ⟨d, cs⟩
      · rfl
      · exact after?_of_ne fun hI => hcs h.symm (congrArg some hI.symm)
    · rw [if_neg h]
  -- all other words are told from their first letter
  have hword : ∀ {w : Char} {word : List Char}, c ≠ w → after? (w :: word) (c :: cs) = none :=
    fun hw => after?_of_ne hw.symm
  have hnull : after? "null".toList (c :: cs) = none := hword hn
  have htrue : after? "true".toList (c :: cs) = none := hword ht
  have hfalse : after? "false".toList (c :: cs) = none := hword hf
  have hnan : after? "NaN".toList (c :: cs) = none := hword hN
  have hinfinite : after? "Infinity".toList (c :: cs) = none := hword hI
  simp only [readWord?, words, List.findSome?_cons, List.findSome?_nil, hnull, htrue, hfalse, hnan,
    hinfinite, hminus, Option.map_none]

/-- A whole number is read back, since no word begins with a digit or is a sign. -/
theorem readsBack_int {depth : Nat} {n : Int}
    (hlen : ReadableWhole n) :
    ReadsBack depth (.int n) := by
  intro fuel rest hends hfuel
  have hnumber := readNumber_renderChars hends hlen
  -- a digit is none of the characters with which other values begin
  have hdigit : ∀ c : Char, c.isDigit = true → (c ≠ '"' ∧ c ≠ '[' ∧ c ≠ '{') ∧
      (c ≠ 'n' ∧ c ≠ 't' ∧ c ≠ 'f' ∧ c ≠ 'N' ∧ c ≠ 'I') ∧ c ≠ '-' := by
    intro c hc
    refine ⟨⟨?_, ?_, ?_⟩, ⟨?_, ?_, ?_, ?_, ?_⟩, ?_⟩ <;> (rintro rfl; exact absurd hc (by decide))
  -- the text begins with a digit, or with a sign and a digit
  have hhead : ∃ c cs, renderChars (.int n) = c :: cs ∧ (c ≠ '"' ∧ c ≠ '[' ∧ c ≠ '{') ∧
      readWord? (c :: (cs ++ rest)) = none := by
    rcases n with m | m
    · obtain ⟨c, cs, hcs, hc⟩ := toDigits_head m
      obtain ⟨hleaf, hletter, hsign⟩ := hdigit c hc
      exact ⟨c, cs, (renderChars_ofNat m).trans hcs, hleaf,
        readWord?_of_head hletter fun h => absurd h hsign⟩
    · obtain ⟨c, cs, hcs, hc⟩ := toDigits_head (m + 1)
      refine ⟨'-', c :: cs, ?_, by decide, readWord?_of_head (by decide) fun _ => ?_⟩
      · rw [renderChars_negSucc, hcs]
      · simpa using (hdigit c hc).2.1.2.2.2.2
  obtain ⟨c, cs, hv, hleaf, hword⟩ := hhead
  rw [hv, List.length_cons] at hfuel
  obtain ⟨fuel, rfl⟩ : ∃ f, fuel = f + 1 := ⟨fuel - 1, by omega⟩
  rw [hv, List.cons_append] at hnumber ⊢
  rw [readValue_leaf fuel depth _ hleaf, hword]
  exact hnumber

/-- A text is read back. -/
theorem readsBack_text {depth : Nat} (s : String) : ReadsBack depth (.text s) := by
  intro fuel rest _ hfuel
  have hlen := length_renderText s
  rw [renderChars] at hfuel ⊢
  obtain ⟨fuel, rfl⟩ : ∃ f, fuel = f + 1 := ⟨fuel - 1, by omega⟩
  rw [renderText, List.cons_append, List.append_assoc, List.singleton_append, readValue_quote,
    readString_renderText s rest (by omega)]
  rfl

/-! ### Lists

A list is read back by induction on its items, each of which is followed by a comma or by the
bracket. -/

/-- A bracket with something behind it begins a list with items. -/
theorem readValue_bracket (fuel depth : Nat) {c : Char} {cs : List Char} (rest : List Char)
    (hc : Opens c) :
    readValue (fuel + 1) (depth + 1) ('[' :: (c :: cs ++ rest)) =
      (readItems fuel depth (c :: cs ++ rest)).bind fun (items, rest) =>
        .ok (.list items, rest) := by
  rw [readValue.eq_def]
  simp only [List.cons_append, skipSpace_cons hc]
  simp [hc.2.1, bind, pure, Except.pure]

/-- Items are a value, and more of them behind a comma. -/
theorem readItems_succ (fuel depth : Nat) (cs : List Char) :
    readItems (fuel + 1) depth cs = (readValue fuel depth cs).bind fun (v, rest) =>
      match skipSpace rest with
      | ']' :: rest => .ok ([v], rest)
      | ',' :: rest =>
        (readItems fuel depth (skipSpace rest)).bind fun (vs, rest) => .ok (v :: vs, rest)
      | _ => fault .commaExpected := by
  rw [readItems.eq_def]
  rfl

/-- The text of the items begins like a value. -/
theorem renderItems_head {depth : Nat} {items : List Value} (hne : items ≠ [])
    (hplain : ∀ v ∈ items, Plain depth v) :
    ∃ c cs, commaJoin (renderItems items) = c :: cs ∧ Opens c := by
  obtain ⟨v, more, rfl⟩ := List.exists_cons_of_ne_nil hne
  obtain ⟨c, cs, hcs, hc⟩ := (hplain v (by simp)).head
  rw [renderItems, hcs]
  rcases renderItems more with _ | ⟨x, xs⟩
  · exact ⟨c, cs, rfl, hc⟩
  · exact ⟨c, _, commaJoin_cons _ (List.cons_ne_nil x xs), hc⟩

/-- **Items.** Each item is read from its own text, and the comma or the bracket behind it decides
whether another one follows. -/
theorem readItems_renderItems {depth : Nat} {items : List Value} (hne : items ≠ [])
    (hplain : ∀ v ∈ items, Plain depth v) (hread : ∀ v ∈ items, ReadsBack depth v) (fuel : Nat)
    (rest : List Char) (hfuel : 2 * (commaJoin (renderItems items)).length + 1 ≤ fuel) :
    readItems fuel depth (commaJoin (renderItems items) ++ ']' :: rest) = .ok (items, rest) := by
  induction items generalizing fuel with
  | nil => exact absurd rfl hne
  | cons v items ih =>
    -- one unit of fuel is spent on the item, its comma pays for it
    obtain ⟨fuel, rfl⟩ : ∃ f, fuel = f + 1 := ⟨fuel - 1, by omega⟩
    have hv := hread v (by simp)
    rw [renderItems] at hfuel ⊢
    by_cases hitems : items = []
    · subst hitems
      rw [renderItems, commaJoin] at hfuel ⊢
      rw [readItems_succ, hv fuel (']' :: rest) (ends_cons (by decide)) (by omega)]
      rfl
    · have hrest : renderItems items ≠ [] := by
        rw [renderItems_eq_map]
        simpa using hitems
      rw [commaJoin_cons _ hrest, List.length_append, List.length_cons, List.length_cons] at hfuel
      have htail : ∀ v ∈ items, Plain depth v := fun v hv => hplain v (by simp [hv])
      have ih := ih hitems htail (fun v hv => hread v (by simp [hv])) fuel (by omega)
      -- the text of the next item begins right behind the blank
      have hskip : skipSpace (' ' :: (commaJoin (renderItems items) ++ ']' :: rest)) =
          commaJoin (renderItems items) ++ ']' :: rest := by
        obtain ⟨c, cs, hcs, hc⟩ := renderItems_head hitems htail
        rw [skipSpace_blank, hcs, List.cons_append, skipSpace_cons hc]
      rw [commaJoin_cons _ hrest, List.append_assoc, readItems_succ, List.cons_append,
        List.cons_append, hv fuel _ (ends_cons (by decide)) (by omega)]
      show (readItems fuel depth (skipSpace (' ' :: _))).bind _ = _
      rw [hskip, ih]
      rfl

/-- A list is read back if its items are. -/
theorem readsBack_list {depth : Nat} {items : List Value} (hplain : ∀ v ∈ items, Plain depth v)
    (hread : ∀ v ∈ items, ReadsBack depth v) : ReadsBack (depth + 1) (.list items) := by
  intro fuel rest _ hfuel
  rw [renderChars, List.length_cons, List.length_append, List.length_singleton] at hfuel
  obtain ⟨fuel, rfl⟩ : ∃ f, fuel = f + 1 := ⟨fuel - 1, by omega⟩
  rw [renderChars, List.cons_append, List.append_assoc, List.singleton_append]
  -- an empty list is closed at once; else the first item does not begin with the closing bracket
  rcases items with _ | ⟨v, items⟩
  · rw [readValue.eq_def]
    rfl
  · have hitems := readItems_renderItems (List.cons_ne_nil v items) hplain hread fuel rest
      (by omega)
    obtain ⟨c, cs, hcs, hc⟩ := renderItems_head (List.cons_ne_nil v items) hplain
    rw [hcs] at hitems ⊢
    rw [readValue_bracket fuel depth _ hc, hitems]
    rfl

/-! ### Objects

An object is read back by induction on its fields. What was read so far is carried along, and the
next key is put behind it because no key stands twice. -/

/-- A key that is not there yet is put at the end. -/
theorem put_of_not_mem {fields : Fields} {key : String} (v : Value)
    (h : key ∉ fields.map (·.1)) : fields.put key v = fields ++ [(key, v)] := by
  rw [Fields.put, if_neg]
  simp only [List.any_eq_true, decide_eq_true_eq, not_exists, not_and]
  rintro f hf rfl
  exact h (List.mem_map_of_mem hf)

/-- A brace with a quote behind it begins an object with fields. -/
theorem readValue_brace (fuel depth : Nat) (cs : List Char) :
    readValue (fuel + 1) (depth + 1) ('{' :: '"' :: cs) =
      (readFields fuel depth [] ('"' :: cs)).bind fun (fields, rest) =>
        .ok (.object fields, rest) := by
  rw [readValue.eq_def]
  rfl

/-- Fields are a key, a colon and a value, and more of them behind a comma. -/
theorem readFields_quote (fuel depth : Nat) (before : Fields) (cs : List Char) :
    readFields (fuel + 1) depth before ('"' :: cs) =
      (readString fuel cs).bind fun (key, rest) =>
        match after? [':'] (skipSpace rest) with
        | some rest =>
          (readValue fuel depth (skipSpace rest)).bind fun (v, rest) =>
            match skipSpace rest with
            | '}' :: rest => .ok (before.put key v, rest)
            | ',' :: rest => readFields fuel depth (before.put key v) (skipSpace rest)
            | _ => fault .commaExpected
        | _ => fault .colonExpected := by
  have hquote : after? ['"'] ('"' :: cs) = some cs := by simp [after?]
  rw [readFields.eq_def]
  simp only [hquote]
  rfl

/-- A field is read from its own text, and what stands behind it decides how to go on. -/
theorem readFields_renderField {depth : Nat} {key : String} {v : Value} (hplain : Plain depth v)
    (hread : ReadsBack depth v) (fuel : Nat) (before : Fields) {rest : List Char}
    (hends : Ends rest)
    (hfuel : 2 * (renderText key ++ ':' :: ' ' :: renderChars v).length ≤ fuel) :
    readFields (fuel + 1) depth before (renderText key ++ ':' :: ' ' :: renderChars v ++ rest) =
      match skipSpace rest with
      | '}' :: rest => .ok (before.put key v, rest)
      | ',' :: rest => readFields fuel depth (before.put key v) (skipSpace rest)
      | _ => fault .commaExpected := by
  rw [List.length_append, List.length_cons, List.length_cons] at hfuel
  rw [List.append_assoc, renderText, List.cons_append, List.append_assoc, List.singleton_append,
    readFields_quote, readString_renderText key _ (by omega)]
  -- the value behind the key is read by hypothesis, with a blank before it that the reader passes
  -- over
  have hv := hread fuel rest hends (by omega)
  rw [← hplain.skipSpace rest, ← skipSpace_blank] at hv
  show (readValue fuel depth (skipSpace (' ' :: (renderChars v ++ rest)))).bind _ = _
  rw [hv]
  rfl

/-- **Fields.** No key comes twice, so each field that is read is put behind those before it. -/
theorem readFields_renderFields {depth : Nat} {fields : Fields} (hne : fields ≠ [])
    (before : Fields) (hkeys : ((before ++ fields).map (·.1)).Nodup)
    (hplain : ∀ f ∈ fields, Plain depth f.2) (hread : ∀ f ∈ fields, ReadsBack depth f.2)
    (fuel : Nat) (rest : List Char)
    (hfuel : 2 * (commaJoin (renderFields fields)).length + 1 ≤ fuel) :
    readFields fuel depth before (commaJoin (renderFields fields) ++ '}' :: rest) =
      .ok (before ++ fields, rest) := by
  induction fields generalizing before fuel with
  | nil => exact absurd rfl hne
  | cons f fields ih =>
    obtain ⟨key, v⟩ := f
    obtain ⟨fuel, rfl⟩ : ∃ f, fuel = f + 1 := ⟨fuel - 1, by omega⟩
    have hv : ReadsBack depth v := hread (key, v) (by simp)
    have hpv : Plain depth v := hplain (key, v) (by simp)
    -- the fields read so far are carried along, so that a key is seen to be new
    have hkey : key ∉ before.map (·.1) := by
      rw [List.map_append, List.nodup_append] at hkeys
      exact fun hmem => hkeys.2.2 key hmem key (by simp) rfl
    rw [renderFields] at hfuel ⊢
    by_cases hfields : fields = []
    · subst hfields
      rw [renderFields, commaJoin] at hfuel ⊢
      rw [readFields_renderField hpv hv fuel before (ends_cons (by decide)) (by omega),
        put_of_not_mem v hkey]
      rfl
    · obtain ⟨⟨key', v'⟩, more, rfl⟩ := List.exists_cons_of_ne_nil hfields
      have hrest : renderFields ((key', v') :: more) ≠ [] := by simp [renderFields]
      rw [commaJoin_cons _ hrest, List.length_append, List.length_cons, List.length_cons] at hfuel
      have ih := ih (List.cons_ne_nil _ _) (before ++ [(key, v)]) (by simpa using hkeys)
        (fun f hf => hplain f (by simp [hf])) (fun f hf => hread f (by simp [hf])) fuel (by omega)
      -- the key of the next field begins right behind the blank
      have hskip : ∀ cs, skipSpace (' ' :: (commaJoin (renderFields ((key', v') :: more)) ++ cs)) =
          commaJoin (renderFields ((key', v') :: more)) ++ cs := by
        intro cs
        rw [skipSpace_blank, renderFields]
        rcases renderFields more with _ | ⟨x, xs⟩ <;> exact skipSpace_cons (by decide)
      rw [commaJoin_cons _ hrest, List.append_assoc, List.cons_append, List.cons_append,
        readFields_renderField hpv hv fuel before (ends_cons (by decide)) (by omega),
        put_of_not_mem v hkey]
      show readFields fuel depth _ (skipSpace (' ' :: _)) = _
      rw [hskip, ih, List.append_assoc, List.singleton_append]

/-- An object is read back if its values are and its keys stand once. -/
theorem readsBack_object {depth : Nat} {fields : Fields} (hkeys : (fields.map (·.1)).Nodup)
    (hplain : ∀ f ∈ fields, Plain depth f.2) (hread : ∀ f ∈ fields, ReadsBack depth f.2) :
    ReadsBack (depth + 1) (.object fields) := by
  intro fuel rest _ hfuel
  rw [renderChars, List.length_cons, List.length_append, List.length_singleton] at hfuel
  obtain ⟨fuel, rfl⟩ : ∃ f, fuel = f + 1 := ⟨fuel - 1, by omega⟩
  rw [renderChars, List.cons_append, List.append_assoc, List.singleton_append]
  rcases fields with _ | ⟨⟨key, v⟩, fields⟩
  · rw [readValue.eq_def]
    rfl
  · have hfields := readFields_renderFields (List.cons_ne_nil (key, v) fields) [] hkeys hplain
      hread fuel rest (by omega)
    -- the first field begins with the quote of its key, so the reader does not take the brace for
    -- the end
    obtain ⟨cs, hcs⟩ : ∃ cs, commaJoin (renderFields ((key, v) :: fields)) = '"' :: cs := by
      rw [renderFields]
      rcases renderFields fields with _ | ⟨x, xs⟩ <;> exact ⟨_, rfl⟩
    rw [hcs] at hfields ⊢
    rw [List.cons_append] at hfields ⊢
    rw [readValue_brace, hfields]
    rfl

/-! ## Whole texts

With the two mutual steps at hand the induction on how values nest is short. A whole text may have
blanks behind its value, such as the end of a line. -/

/-- **The round trip of values.** -/
theorem Plain.readsBack {depth : Nat} {v : Value} (h : Plain depth v) : ReadsBack depth v := by
  induction h with
  | null =>
    refine readsBack_word 'n' "ull".toList rfl (by decide) fun rest => ?_
    show readWord? ("null".toList ++ rest) = _
    simp only [readWord?, words, List.findSome?_cons, after?_self, Option.map_some]
  | bool b =>
    cases b
    · refine readsBack_word 'f' "alse".toList rfl (by decide) fun rest => ?_
      -- the words before it begin with other letters
      have hnull : after? "null".toList ("false".toList ++ rest) = none :=
        after?_of_ne (w := 'n') (c := 'f') (by decide)
      have htrue : after? "true".toList ("false".toList ++ rest) = none :=
        after?_of_ne (w := 't') (c := 'f') (by decide)
      show readWord? ("false".toList ++ rest) = _
      simp only [readWord?, words, List.findSome?_cons, hnull, htrue, after?_self, Option.map_none,
        Option.map_some]
    · refine readsBack_word 't' "rue".toList rfl (by decide) fun rest => ?_
      have hnull : after? "null".toList ("true".toList ++ rest) = none :=
        after?_of_ne (w := 'n') (c := 't') (by decide)
      show readWord? ("true".toList ++ rest) = _
      simp only [readWord?, words, List.findSome?_cons, hnull, after?_self, Option.map_none,
        Option.map_some]
  | int hlen => exact readsBack_int hlen
  | text s => exact readsBack_text s
  | list hitems ih => exact readsBack_list hitems ih
  | object hkeys hfields ih => exact readsBack_object hkeys hfields ih

/-- A value is read from the front of a text if it is a plain one, and what counts of the rest is
whether there is more in it than blanks. -/
theorem readChars_append {v : Value} (h : Plain maxDepth v) {rest : List Char} (hends : Ends rest) :
    readChars (renderChars v ++ rest) =
      if (skipSpace rest).isEmpty then .ok v else fault .extraData := by
  -- the reader starts with twice the text as fuel, the rest included
  have hread := h.readsBack (2 * (renderChars v ++ rest).length + 2) rest hends (by
    rw [List.length_append]; omega)
  obtain ⟨c, cs, hcs, hc⟩ := h.head
  rw [readChars]
  · simp only [h.skipSpace, hread]
  · intro _ heq
    rw [hcs, List.cons_append] at heq
    exact hc.2.2 (List.cons.inj heq).1

/-- The text of a plain value is read as that value, blanks behind it or not. -/
theorem readChars_renderChars {v : Value} (h : Plain maxDepth v) (blanks : List Char)
    (hblanks : ∀ c ∈ blanks, isSpace c = true) :
    readChars (renderChars v ++ blanks) = .ok v := by
  have hends : Ends blanks := by
    rcases blanks with _ | ⟨c, blanks⟩
    · exact ends_nil
    · refine ends_cons ?_
      have hc := hblanks c (by simp)
      simp only [isSpace, Bool.or_eq_true, decide_eq_true_eq] at hc
      rcases hc with ((rfl | rfl) | rfl) | rfl <;> decide
  have hskip : (skipSpace blanks).isEmpty = true := by
    rw [skipSpace, List.isEmpty_iff, List.dropWhile_eq_nil_iff]
    exact hblanks
  rw [readChars_append h hends, if_pos hskip]

/-- Anything else behind it is refused. -/
theorem readChars_behind {v : Value} (h : Plain maxDepth v) {rest : List Char} (hends : Ends rest)
    (hrest : skipSpace rest ≠ []) : readChars (renderChars v ++ rest) = fault .extraData := by
  have hmore : ¬(skipSpace rest).isEmpty = true := by
    rw [List.isEmpty_iff]
    exact hrest
  rw [readChars_append h hends, if_neg hmore]

/-- The text of a plain value is read as that value. -/
theorem read_render {v : Value} (h : Plain maxDepth v) : read (render v) = .ok v := by
  have hread := readChars_renderChars h [] (by simp)
  rw [List.append_nil] at hread
  rw [read, render, String.toList_ofList, hread]

/-! ## Printable text

Everything outside printable ASCII is escaped, so the text of a value has no line end in it. Streams
rest on this: a record is one line. -/

/-- Whether a character is a printable ASCII character. -/
def Printable (c : Char) : Prop :=
  0x20 ≤ c.toNat ∧ c.toNat ≤ 0x7E

instance (c : Char) : Decidable (Printable c) := inferInstanceAs (Decidable (_ ∧ _))

/-- All of a few given characters. -/
theorem printable_of_all {cs : List Char} (h : cs.all (fun c => decide (Printable c)) = true) :
    ∀ c ∈ cs, Printable c := by
  simpa only [List.all_eq_true, decide_eq_true_eq] using h

/-- Digits are printable. -/
theorem printable_of_isDigit {c : Char} (h : c.isDigit = true) : Printable c := by
  rw [Char.isDigit_iff_toNat] at h
  have h0 : '0'.toNat = 48 := by decide
  have h9 : '9'.toNat = 57 := by decide
  exact ⟨by omega, by omega⟩

/-- Hexadecimal digits are printable. -/
theorem printable_hexDigits {width n : Nat} : ∀ c ∈ Text.hexDigits width n, Printable c := by
  have hdigit : ∀ d < 16, Printable (Text.hexDigit d) := by decide
  induction width generalizing n with
  | zero => exact nofun
  | succ width ih =>
    intro c hc
    rw [Text.hexDigits] at hc
    rcases List.mem_append.mp hc with hc | hc
    · exact ih c hc
    · rw [List.mem_singleton.mp hc]
      exact hdigit _ (by omega)

/-- What is written for a character is printable, whatever the character is. -/
theorem printable_escapeChar (c : Char) : ∀ d ∈ escapeChar c, Printable d := by
  have hunit : ∀ n, ∀ d ∈ unitEscape n, Printable d := by
    intro n d hd
    rcases List.mem_cons.mp hd with rfl | hd
    · decide
    rcases List.mem_cons.mp hd with rfl | hd
    · decide
    · exact printable_hexDigits d hd
  simp only [escapeChar]
  -- the short escapes and the characters that stand for themselves are printable one by one; the
  -- rest is written in hexadecimal digits
  split_ifs with h₁ h₂ h₃ h₄ h₅ h₆ h₇ h₈
  · rcases h₁ with rfl | rfl
    · exact printable_of_all rfl
    · exact printable_of_all rfl
  · exact printable_of_all rfl
  · exact printable_of_all rfl
  · exact printable_of_all rfl
  · exact printable_of_all rfl
  · exact printable_of_all rfl
  · intro d hd
    rw [List.mem_singleton.mp hd]
    exact h₇
  · exact hunit _
  · intro d hd
    rcases List.mem_append.mp hd with hd | hd
    · exact hunit _ d hd
    · exact hunit _ d hd

/-- A string is printable with its quotes. -/
theorem printable_renderText (s : String) : ∀ c ∈ renderText s, Printable c := by
  intro c hc
  rw [renderText, List.mem_cons, List.mem_append, List.mem_singleton, List.mem_flatMap] at hc
  rcases hc with rfl | ⟨d, -, hc⟩ | rfl
  · decide
  · exact printable_escapeChar d c hc
  · decide

/-- Nothing stands between texts but commas and blanks. -/
theorem mem_commaJoin {c : Char} {xs : List (List Char)} (h : c ∈ commaJoin xs) :
    c = ',' ∨ c = ' ' ∨ ∃ x ∈ xs, c ∈ x := by
  induction xs with
  | nil => exact absurd h (List.not_mem_nil)
  | cons x xs ih =>
    -- between two texts stand a comma and a blank; behind the last one stands nothing
    by_cases hxs : xs = []
    · subst hxs
      exact .inr (.inr ⟨x, by simp, h⟩)
    · rw [commaJoin_cons x hxs, List.mem_append, List.mem_cons, List.mem_cons] at h
      rcases h with h | rfl | rfl | h
      · exact .inr (.inr ⟨x, by simp, h⟩)
      · exact .inl rfl
      · exact .inr (.inl rfl)
      · obtain h | h | ⟨y, hy, h⟩ := ih h
        · exact .inl h
        · exact .inr (.inl h)
        · exact .inr (.inr ⟨y, by simp [hy], h⟩)

/-- Printable texts are printable together. -/
theorem printable_commaJoin {xs : List (List Char)} (h : ∀ x ∈ xs, ∀ c ∈ x, Printable c) :
    ∀ c ∈ commaJoin xs, Printable c := by
  intro c hc
  obtain rfl | rfl | ⟨x, hx, hc⟩ := mem_commaJoin hc
  · decide
  · decide
  · exact h x hx c hc

/-- The text of a plain value has no line ends in it, nor anything else that is not printable. -/
theorem Plain.printable {depth : Nat} {v : Value} (h : Plain depth v) :
    ∀ c ∈ renderChars v, Printable c := by
  induction h with
  | null => exact printable_of_all rfl
  | bool b =>
    cases b
    · exact printable_of_all rfl
    · exact printable_of_all rfl
  | @int _ n hlen =>
    intro c hc
    -- digits, with a sign in front of them or not
    have hdigit : ∀ m, ∀ c ∈ Nat.toDigits 10 m, Printable c := fun m c hc =>
      printable_of_isDigit (Nat.isDigit_of_mem_toDigits (by decide) (by decide) hc)
    rcases n with m | m
    · rw [renderChars_ofNat] at hc
      exact hdigit m c hc
    · rw [renderChars_negSucc] at hc
      rcases List.mem_cons.mp hc with rfl | hc
      · decide
      · exact hdigit _ c hc
  | text s => exact printable_renderText s
  | @list _ items hitems ih =>
    intro c hc
    rw [renderChars, List.mem_cons, List.mem_append, List.mem_singleton, renderItems_eq_map] at hc
    rcases hc with rfl | hc | rfl
    · decide
    · refine printable_commaJoin (fun x hx => ?_) c hc
      obtain ⟨v, hv, rfl⟩ := List.mem_map.mp hx
      exact ih v hv
    · decide
  | @object _ fields hkeys hfields ih =>
    intro c hc
    rw [renderChars, List.mem_cons, List.mem_append, List.mem_singleton, renderFields_eq_map] at hc
    rcases hc with rfl | hc | rfl
    · decide
    · refine printable_commaJoin (fun x hx => ?_) c hc
      obtain ⟨f, hf, rfl⟩ := List.mem_map.mp hx
      intro d hd
      rw [List.mem_append, List.mem_cons, List.mem_cons] at hd
      rcases hd with hd | rfl | rfl | hd
      · exact printable_renderText f.1 d hd
      · decide
      · decide
      · exact ih f hf d hd
    · decide

end CodeCatalog.Json
