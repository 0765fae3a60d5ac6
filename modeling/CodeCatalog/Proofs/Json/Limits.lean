/-
What ends the reading of a text besides its faults.

A text that is no JSON is malformed, and that is an answer about the text. The two limits of the reader
are not: a whole number with too many digits and values that nest too deep end the reading altogether.
A text that meets neither is `Legible`.

What a part of the reader answers is proved for all values at once, by induction on the fuel that the
three mutual readers share. How a value begins is said once for all such proofs (`readValue_cases`).
-/
import CodeCatalog.Proofs.Json.RoundTrip

set_option autoImplicit false

namespace CodeCatalog.Json

variable {cs rest : List Char}

/-! ## Numbers

Readers of parts of a number leave an end of the text. For the whole part it is also known what
stands before that end: digits. -/

/-- The digits before the point stand side by side, and the rest of the text behind them. -/
theorem wholePart?_spec {whole : List Char} (h : wholePart? cs = some (whole, rest)) :
    whole ++ rest = cs ∧ ∀ d ∈ whole, d.isDigit := by
  rw [wholePart?.eq_def] at h
  split at h
  · obtain ⟨rfl, rfl⟩ := Prod.mk.inj (Option.some.inj h)
    exact ⟨rfl, List.forall_mem_singleton.mpr rfl⟩
  · split at h
    · obtain ⟨rfl, rfl⟩ := Prod.mk.inj (Option.some.inj h)
      exact ⟨List.takeWhile_append_dropWhile, List.all_eq_true.mp List.all_takeWhile⟩
    · exact absurd h nofun
  · exact absurd h nofun

/-- What is left behind a fraction is an end of the text. -/
theorem fractionPart_suffix (cs : List Char) : (fractionPart cs).2 <:+ cs := by
  rw [fractionPart.eq_def]
  split
  · rename_i tail
    split
    · exact List.suffix_refl _
    · exact (List.dropWhile_suffix _).trans (List.suffix_cons '.' tail)
  · exact List.suffix_refl _

/-- What is left behind a sign is an end of the text. -/
theorem splitSign_suffix (cs : List Char) : (Text.splitSign cs).2 <:+ cs := by
  rw [Text.splitSign.eq_def]
  split
  · exact List.suffix_cons _ _
  · exact List.suffix_cons _ _
  · exact List.suffix_refl _

/-- What is left behind an exponent is an end of the text. -/
theorem exponentPart?_suffix {n : Int} (h : exponentPart? cs = some (n, rest)) : rest <:+ cs := by
  rw [exponentPart?.eq_def] at h
  split at h
  · rename_i c tail
    split at h
    · simp only at h
      split at h
      · exact absurd h nofun
      · rw [← (Prod.mk.inj (Option.some.inj h)).2]
        exact (List.dropWhile_suffix _).trans
          ((splitSign_suffix tail).trans (List.suffix_cons c tail))
    · exact absurd h nofun
  · exact absurd h nofun

/-! ## Values

`readValue_cases` is how the other modules open the reader of values: one case for each character
that a value can begin with, with a motive over the answer. -/

/-- Whether a character opens a list or an object. -/
def isOpening (c : Char) : Bool :=
  c = '[' || c = '{'

/-- **How a value begins.** A quote begins a text, a bracket a list and a brace an object, if one
more may nest; anything else is a word or a number. So what holds of these answers is what holds of
every answer to what a value is read from. -/
theorem readValue_cases {fuel : Nat}
    {motive : (depth : Nat) → List Char → Except ReadError (Value × List Char) → Prop}
    (nothing : ∀ depth, motive depth [] (fault .valueExpected))
    (text : ∀ depth rest, motive depth ('"' :: rest)
      (readString fuel rest >>= fun (s, left) => pure (.text s, left)))
    (deep : ∀ c rest, isOpening c = true → motive 0 (c :: rest) (.error .tooDeep))
    (emptyList : ∀ depth rest left, skipSpace rest = ']' :: left →
      motive (depth + 1) ('[' :: rest) (.ok (.list [], left)))
    (list : ∀ depth rest, motive (depth + 1) ('[' :: rest)
      (readItems fuel depth (skipSpace rest) >>= fun (items, left) => pure (.list items, left)))
    (emptyObject : ∀ depth rest left, skipSpace rest = '}' :: left →
      motive (depth + 1) ('{' :: rest) (.ok (.object [], left)))
    (object : ∀ depth rest, motive (depth + 1) ('{' :: rest)
      (readFields fuel depth [] (skipSpace rest) >>= fun (fields, left) =>
        pure (.object fields, left)))
    (word : ∀ depth cs v left, readWord? cs = some (v, left) → motive depth cs (.ok (v, left)))
    (number : ∀ depth cs, motive depth cs (readNumber cs))
    (depth : Nat) (cs : List Char) : motive depth cs (readValue (fuel + 1) depth cs) := by
  -- the cases stand in the order in which the reader tries them: a quote, a bracket, a brace, a
  -- word, and a number last
  rcases cs with _ | ⟨c, rest⟩
  · exact nothing depth
  rw [readValue.eq_def]
  simp only
  split
  · rename_i hc
    subst hc
    exact text depth rest
  split
  · rename_i hc
    subst hc
    rcases depth with _ | depth
    · exact deep '[' rest rfl
    simp only
    split
    · rename_i left heq
      exact emptyList depth rest left heq
    · exact list depth rest
  split
  · rename_i hc
    subst hc
    rcases depth with _ | depth
    · exact deep '{' rest rfl
    simp only
    split
    · rename_i left heq
      exact emptyObject depth rest left heq
    · exact object depth rest
  split
  · rename_i found hfound
    exact word depth _ found.1 found.2 hfound
  · exact number depth _

/-! ## Whole texts

A text is legible if the two limits do not end its reading; it may still be malformed. A number with
too many digits at its start makes a text illegible. -/

/-- A text that is read, or of which can be told why it is no JSON. -/
def Legible (cs : List Char) : Prop :=
  ∀ e, readChars cs = .error e → ∃ m, e = .malformed m

instance (cs : List Char) : Decidable (Legible cs) :=
  match h : readChars cs with
  | .ok _ => .isTrue fun e he => by rw [h] at he; exact absurd he nofun
  | .error (.malformed m) =>
    .isTrue fun e he => ⟨m, by rw [h] at he; exact (Except.error.inj he).symm⟩
  | .error (.longWhole n) => .isFalse fun hl => by obtain ⟨m, hm⟩ := hl _ h; exact absurd hm nofun
  | .error .tooDeep => .isFalse fun hl => by obtain ⟨m, hm⟩ := hl _ h; exact absurd hm nofun

/-- A text is legible if its value is: what a whole text adds to that are faults of the text. -/
theorem legible_of_readValue (h : ∀ e,
    readValue (2 * cs.length + 2) maxDepth (skipSpace cs) = .error e → ∃ m, e = .malformed m) :
    Legible cs := by
  intro e he
  -- a byte order mark and something behind the value are malformed themselves
  rw [readChars.eq_def] at he
  split at he
  · exact ⟨_, (Except.error.inj he).symm⟩
  split at he
  · rename_i e' hvalue
    exact Except.error.inj he ▸ h e' hvalue
  split at he
  · cases he
  · exact ⟨_, (Except.error.inj he).symm⟩

/-- The limit of digits is met: a line of more digits that do not begin with a zero is past it. -/
theorem readChars_digits (c : Char) (ds : List Char) (hzero : c ≠ '0')
    (hdigits : ∀ d ∈ c :: ds, d.isDigit) (hlong : Text.maxWholeDigits < (c :: ds).length) :
    readChars (c :: ds ++ ['\n']) = .error (.longWhole (c :: ds).length) := by
  have hends : Ends ['\n'] := ends_cons (by decide)
  -- a digit begins nothing but a number
  have hne : ∀ d : Char, d.isDigit = false → c ≠ d := by
    rintro d hd rfl
    exact absurd (hd.symm.trans (hdigits c List.mem_cons_self)) nofun
  have hskip : skipSpace (c :: (ds ++ ['\n'])) = c :: (ds ++ ['\n']) :=
    skipSpace_cons (opens_of_isDigit (hdigits c List.mem_cons_self))
  have hword : readWord? (c :: (ds ++ ['\n'])) = none :=
    readWord?_of_head ⟨hne _ (by decide), hne _ (by decide), hne _ (by decide), hne _ (by decide),
      hne _ (by decide)⟩ fun h => absurd h (hne _ (by decide))
  have hwhole : wholePart? (c :: (ds ++ ['\n'])) = some (c :: ds, ['\n']) := by
    have htake : (c :: ds ++ ['\n']).takeWhile Char.isDigit = c :: ds := by
      rw [List.takeWhile_append_of_pos hdigits]
      exact List.append_nil _
    have hdrop : (c :: ds ++ ['\n']).dropWhile Char.isDigit = ['\n'] := by
      rw [List.dropWhile_append_of_pos hdigits]
      rfl
    rw [List.cons_append] at htake hdrop
    rw [wholePart?, if_pos (hdigits c List.mem_cons_self), htake, hdrop]
    exact hzero
  have hnumber : readNumber (c :: (ds ++ ['\n'])) = .error (.longWhole (c :: ds).length) := by
    rw [readNumber]
    · simp only [hwhole, fractionPart_of_ends hends, exponentPart?_of_ends hends, if_pos hlong]
    · intro _ heq
      exact hne '-' (by decide) (List.cons.inj heq).1
  rw [List.cons_append, readChars]
  · simp only [hskip, readValue_leaf _ _ _
      ⟨hne '"' (by decide), hne '[' (by decide), hne '{' (by decide)⟩, hword, Option.elim_none,
      hnumber]
  · intro _ heq
    exact hne '\uFEFF' (by decide) (List.cons.inj heq).1

end CodeCatalog.Json
