/-
The expression for a word means the word.

Escaping takes the meaning from every operator, so an escaped text is read as its own characters
(`readPieces_escape`). Words have no signs in them, so nothing of a word needs escaping in the first
place, and what a dot and a star leave out, the end of a line, is in no term: what is left of the
expression is to begin with the word (`readLiterally_of_patternTerm`).
-/
import CodeCatalog.Proofs.Text.Sign
import CodeCatalog.Search.Expression

set_option autoImplicit false

namespace CodeCatalog.Search

open Text

variable {done : List Piece} {text rest term : List Char} {word : String} {c : Char}

/-! ## Reading

A pattern is escaped before it is read as an expression. What is read back is one literal piece for
each character. -/

/-- A character on its own. -/
def literal (c : Char) : Piece :=
  ⟨.char c, false⟩

theorem escape_cons (c : Char) (text : List Char) :
    escape (c :: text) = (if c ∈ escapedChars then ['\\', c] else [c]) ++ escape text :=
  List.flatMap_cons

theorem mem_escapedChars_of_operator (hc : c ∈ operators) : c ∈ escapedChars :=
  List.mem_append_left _ hc

/-- A character that is no operator is read as it is. -/
theorem readPieces_cons (hc : c ∉ operators) (done : List Piece) (rest : List Char) :
    readPieces done (c :: rest) = readPieces (literal c :: done) rest := by
  have hne : ∀ d ∈ operators, c ≠ d := fun d hd heq => hc (heq ▸ hd)
  rw [readPieces, if_neg hc, literal]
  · exact fun h _ => hne '\\' (by decide) h
  · exact fun _ _ h _ => hne '\\' (by decide) h
  · exact fun h => hne '.' (by decide) h
  · exact fun h => hne '*' (by decide) h

/-- **An escaped text is read as its own characters**, unless it has white space. -/
theorem readPieces_escape (h : ∀ c ∈ text, c ∈ escapedChars → c ∈ operators) (done : List Piece)
    (rest : List Char) :
    readPieces done (escape text ++ rest) =
      readPieces ((text.map literal).reverse ++ done) rest := by
  induction text generalizing done with
  | nil => rfl
  | cons c text ih =>
    obtain ⟨hc, htext⟩ := List.forall_mem_cons.mp h
    have hrest := ih htext (literal c :: done)
    rw [escape_cons, List.map_cons, List.reverse_cons, List.append_assoc _ [_],
      List.singleton_append, ← hrest]
    -- an escaped character is a backslash and a literal; any other stands for itself
    by_cases hmem : c ∈ escapedChars
    · rw [if_pos hmem]
      show readPieces done ('\\' :: c :: (escape text ++ rest)) = _
      rw [readPieces, if_pos (hc hmem), literal]
    · rw [if_neg hmem]
      exact readPieces_cons (fun hop => hmem (mem_escapedChars_of_operator hop)) done _

/-! ## Finding

Literal pieces spell themselves, and the piece behind them spells anything. -/

/-- Literal pieces spell themselves and leave the rest to what follows. -/
theorem spells_literals (pieces : List Piece) :
    spells (text.map literal ++ pieces) term = true ↔
      ∃ rest, term = text ++ rest ∧ spells pieces rest = true := by
  induction text generalizing term with
  | nil => exact ⟨fun h => ⟨term, rfl, h⟩, fun ⟨_, hterm, h⟩ => hterm ▸ h⟩
  | cons c text ih =>
    -- literals describe a term only character by character from its start
    rcases term with _ | ⟨d, term⟩
    · exact iff_of_false Bool.false_ne_true fun ⟨_, hterm, _⟩ => absurd hterm (by simp)
    · have hfirst : spells ((c :: text).map literal ++ pieces) (d :: term) =
          (decide (d = c) && spells (text.map literal ++ pieces) term) := rfl
      rw [hfirst, Bool.and_eq_true, decide_eq_true_iff, ih]
      constructor
      · rintro ⟨rfl, rest, rfl, h⟩
        exact ⟨rest, rfl, h⟩
      · rintro ⟨rest, hterm, h⟩
        obtain ⟨rfl, rfl⟩ := List.cons.inj hterm
        exact ⟨rfl, rest, rfl, h⟩

/-- A dot and a star leave out nothing but the end of a line. -/
theorem spells_any (h : '\n' ∉ term) : spells [⟨.any, true⟩] term = true := by
  rw [spells.eq_def]
  dsimp only
  rw [if_pos rfl, List.any_eq_true]
  refine ⟨term.length, List.mem_range.mpr (Nat.lt_succ_self _), ?_⟩
  rw [List.take_length, List.drop_length, spells, List.isEmpty_nil, Bool.and_true, List.all_eq_true]
  intro c hc
  exact decide_eq_true fun hend => h (hend ▸ hc)

/-! ## Words

The words of a pattern are made of letters, and nothing that is escaped is a letter. So a prefix of
a word is read as it is written. -/

/-- What is read of the expression for a word: its characters, and anything behind them. -/
def prefixPieces (word : String) : List Piece :=
  word.toList.map literal ++ [⟨.any, true⟩]

/-- The expression for a word is read character by character: nothing in the word is an operator,
nothing of it is escaped, and the expression finds the terms of names that begin with the word. -/
structure ReadLiterally (word : String) : Prop where
  plain : ∀ c ∈ word.toList, c ∉ operators
  expression : prefixExpression word = word.toList ++ ['.', '*']
  pieces : readPieces [] (prefixExpression word) = some (prefixPieces word)
  finds : ∀ name, ∀ term ∈ indexTerms name,
    describes (prefixExpression word) term = true ↔ word.toList <+: term.toList

theorem isSign_of_escaped (hc : c ∈ escapedChars) : IsSign c.toNat := by
  have hall : ∀ n ∈ escapedChars.map Char.toNat, IsSign n := by decide +kernel
  exact hall c.toNat (List.mem_map_of_mem hc)

/-- A text without such characters is not changed. -/
theorem escape_eq_self (h : ∀ c ∈ text, c ∉ escapedChars) : escape text = text := by
  induction text with
  | nil => rfl
  | cons c text ih =>
    obtain ⟨hc, htext⟩ := List.forall_mem_cons.mp h
    rw [escape_cons, if_neg hc, ih htext, List.singleton_append]

/-- Words in lower case have no signs in them. -/
theorem not_sign_of_patternTerm {pattern : String} (hword : word ∈ patternTerms pattern)
    (hc : c ∈ word.toList) : ¬ IsSign c.toNat := by
  intro hsign
  obtain ⟨w, hw, rfl⟩ := List.mem_map.mp hword
  rw [String.toList_ofList] at hc
  have hmem := mem_of_sign_lowerFrom hc hsign
  exact not_sign_of_patternLetter (of_mem_runs (List.mem_of_mem_filter hw) hmem).2 hsign

/-- A word of the index has no signs in it. -/
theorem not_sign_of_indexTerm {name : String} (hword : word ∈ indexTerms name)
    (hc : c ∈ word.toList) : ¬ IsSign c.toNat := by
  intro hsign
  obtain ⟨w, hw, rfl⟩ := List.mem_map.mp hword
  rw [String.toList_ofList] at hc
  have hmem := mem_of_sign_lowerEach hc hsign
  exact not_sign_of_indexLetter (of_mem_runs (List.mem_of_mem_filter hw) hmem).2 hsign

/-- **No character of a pattern is an operator.** -/
theorem readLiterally_of_patternTerm {pattern : String} (hword : word ∈ patternTerms pattern) :
    ReadLiterally word := by
  have hplain : ∀ c ∈ word.toList, c ∉ escapedChars :=
    fun c hc hescaped => not_sign_of_patternTerm hword hc (isSign_of_escaped hescaped)
  have hpieces : readPieces [] (prefixExpression word) = some (prefixPieces word) := by
    rw [prefixExpression, readPieces_escape fun c hc hescaped => absurd hescaped (hplain c hc)]
    simp [readPieces, prefixPieces]
  -- a word of a pattern has no signs, so the expression is the word and a tail for anything else
  refine ⟨fun c hc hop => hplain c hc (mem_escapedChars_of_operator hop), ?_, hpieces, ?_⟩
  · rw [prefixExpression, escape_eq_self hplain]
  · intro name term hterm
    have hline : '\n' ∉ term.toList :=
      fun hend => not_sign_of_indexTerm hterm hend (by decide)
    rw [describes, hpieces, Option.any_some, prefixPieces, spells_literals]
    constructor
    · rintro ⟨rest, hrest, -⟩
      exact ⟨rest, hrest.symm⟩
    · rintro ⟨rest, hrest⟩
      refine ⟨rest, hrest.symm, spells_any fun hend => hline ?_⟩
      rw [← hrest]
      exact List.mem_append_right _ hend

end CodeCatalog.Search
