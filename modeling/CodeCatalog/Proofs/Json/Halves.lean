/-
Escaped halves of pairs.

A character beyond 16 bits is escaped as a pair of code units, and either half of a pair is no
character on its own. The reader has a stand-in for a half that it meets alone (`unitChar`), so what
it gives for such an escape is not what was written. `pairsHalves` says that a text has no such
escape. Then each escape is read as the character that its code units write (`readUnits_paired`),
and a text that the writer made is always of this kind (`Plain.paired`).

Whether a second half may stand at some place depends on what stands right before it, so the
predicate carries that along, and lemmas about a text from a character on are about `false`.
-/
import CodeCatalog.Proofs.Json.RoundTrip

set_option autoImplicit false

namespace CodeCatalog.Json

variable {c : Char} {cs rest : List Char} {awaited : Bool} {n : Nat}

/-- Whether the numeric escapes in a text write characters: each is a character on its own, or a
first half with the second half right behind it. A second half is `awaited` if the first half stands
right before the text. -/
def pairsHalves : (awaited : Bool) → List Char → Bool
  | awaited, '\\' :: 'u' :: a :: b :: c :: d :: rest =>
    match hexUnit? [a, b, c, d] with
    | some (n, _) => isLowHalf n == awaited && pairsHalves (isHighHalf n) rest
    | none => false
  | awaited, '\\' :: _ :: rest => !awaited && pairsHalves false rest
  | awaited, _ :: rest => !awaited && pairsHalves false rest
  | awaited, [] => !awaited

/-! ## One character of a text

What is known of a text from a character on: most characters are passed over, an escape by a letter
takes its letter along, and a code unit says what has to come behind it. -/

/-- A character that begins no escape is passed over. -/
theorem pairsHalves_cons (hc : c ≠ '\\') :
    pairsHalves awaited (c :: rest) = (!awaited && pairsHalves false rest) := by
  rw [pairsHalves]
  · rintro _ _ _ _ _ rfl
    exact absurd rfl hc
  · rintro _ _ rfl
    exact absurd rfl hc

/-- An escape by one letter is passed over with its letter. -/
theorem pairsHalves_letter (hc : c ≠ 'u') :
    pairsHalves awaited ('\\' :: c :: rest) = (!awaited && pairsHalves false rest) := by
  rw [pairsHalves]
  rintro _ _ _ _ _ rfl
  exact absurd rfl hc

/-- What is behind a code unit has no part in it. -/
theorem hexUnit?_cons (a b c d : Char) (rest : List Char) :
    hexUnit? (a :: b :: c :: d :: rest) =
      (hexUnit? [a, b, c, d]).map fun unit => (unit.1, rest) := by
  simp only [hexUnit?, Option.bind_eq_bind, Option.map_bind, Function.comp_def, Option.pure_def,
    Option.map_some]

/-- A hexadecimal digit is less than sixteen. -/
theorem hexValue?_lt (h : hexValue? c = some n) : n < 16 := by
  rw [hexValue?] at h
  -- the three ranges of hexadecimal digits end at nine, at the small f and at the great one
  split_ifs at h with hdigit hlower hupper
  · rw [Char.isDigit, Bool.and_eq_true, decide_eq_true_iff, decide_eq_true_iff] at hdigit
    have hlast : c.toNat ≤ 57 := hdigit.2
    obtain rfl := Option.some.inj h
    omega
  · have hlast : c.toNat ≤ 102 := hlower.2
    obtain rfl := Option.some.inj h
    omega
  · have hlast : c.toNat ≤ 70 := hupper.2
    obtain rfl := Option.some.inj h
    omega

/-- Four digits stand where a code unit is read, and no quote is a digit. -/
theorem exists_digits (h : hexUnit? cs = some (n, rest)) :
    ∃ a b c d, cs = a :: b :: c :: d :: rest ∧ '"' ∉ [a, b, c, d] := by
  obtain ⟨a, b, c, d, rfl, _, _, _, _, ha, hb, hc, hd, -⟩ := exists_of_hexUnit? h
  refine ⟨a, b, c, d, rfl, fun hquote => ?_⟩
  simp only [List.mem_cons, List.not_mem_nil, or_false] at hquote
  rcases hquote with rfl | rfl | rfl | rfl
  · exact (ne_of_hexValue? ha).1 rfl
  · exact (ne_of_hexValue? hb).1 rfl
  · exact (ne_of_hexValue? hc).1 rfl
  · exact (ne_of_hexValue? hd).1 rfl

/-- A code unit has 16 bits. -/
theorem hexUnit?_lt (h : hexUnit? cs = some (n, rest)) : n < 65536 := by
  obtain ⟨_, _, _, _, -, i, j, k, l, ha, hb, hc, hd, rfl⟩ := exists_of_hexUnit? h
  have hi := hexValue?_lt ha
  have hj := hexValue?_lt hb
  have hk := hexValue?_lt hc
  have hl := hexValue?_lt hd
  omega

/-- An escaped code unit is a second half just where one is awaited, and a first half awaits one. -/
theorem pairsHalves_unit (h : hexUnit? cs = some (n, rest)) :
    pairsHalves awaited ('\\' :: 'u' :: cs) =
      (isLowHalf n == awaited && pairsHalves (isHighHalf n) rest) := by
  obtain ⟨a, b, c, d, rfl, -⟩ := exists_digits h
  rw [hexUnit?_cons, Option.map_eq_some_iff] at h
  obtain ⟨⟨m, end'⟩, hunit, heq⟩ := h
  obtain rfl : m = n := congrArg Prod.fst heq
  rw [pairsHalves, hunit]

/-- No code unit is both halves of a pair. -/
theorem not_high_of_low (h : isLowHalf n = true) : isHighHalf n = false := by
  simp only [isHighHalf, isLowHalf, Bool.and_eq_true, Bool.and_eq_false_iff, decide_eq_true_eq,
    decide_eq_false_iff_not] at h ⊢
  omega

/-- The same, the other way round. -/
theorem not_low_of_high (h : isHighHalf n = true) : isLowHalf n = false := by
  simp only [isHighHalf, isLowHalf, Bool.and_eq_true, Bool.and_eq_false_iff, decide_eq_true_eq,
    decide_eq_false_iff_not] at h ⊢
  omega

/-- Where a second half is awaited, it is there. -/
theorem exists_of_awaited (h : pairsHalves true cs = true) : ∃ low more rest,
    cs = '\\' :: 'u' :: more ∧ hexUnit? more = some (low, rest) ∧ isLowHalf low = true ∧
      pairsHalves false rest = true := by
  rw [pairsHalves.eq_def] at h
  split at h
  · next a b c d rest =>
    rcases hunit : hexUnit? [a, b, c, d] with _ | ⟨low, end'⟩
    · rw [hunit] at h
      cases h
    · rw [hunit, Bool.and_eq_true, beq_true] at h
      rw [not_high_of_low h.1] at h
      refine ⟨low, a :: b :: c :: d :: rest, rest, rfl, ?_, h⟩
      rw [hexUnit?_cons, hunit]
      rfl
  -- anything else is refused at once
  · cases h
  · cases h
  · cases h

/-! ## Reading

Reading an escape gives a character and a rest. Where halves stand in pairs, the character is the
one that is written, and the rest is a text of the same kind. -/

/-- What is half of no pair is read as itself. -/
theorem toNat_unitChar (hn : n < 65536) (hhigh : isHighHalf n = false)
    (hlow : isLowHalf n = false) : (unitChar n).toNat = n := by
  have hvalid : n.isValidChar := by
    simp only [isHighHalf, isLowHalf, Bool.and_eq_false_iff, decide_eq_false_iff_not] at hhigh hlow
    rw [Nat.isValidChar]
    omega
  rw [unitChar, hhigh, hlow, Bool.or_false, if_neg Bool.false_ne_true, Char.ofNat, dif_pos hvalid]
  rfl

/-- Two halves write a character beyond 16 bits. -/
theorem toNat_pair {high low : Nat} (hhigh : isHighHalf high = true) (hlow : isLowHalf low = true) :
    (Char.ofNat (0x10000 + (high - 0xD800) * 0x400 + (low - 0xDC00))).toNat =
      0x10000 + (high - 0xD800) * 0x400 + (low - 0xDC00) := by
  simp only [isHighHalf, isLowHalf, Bool.and_eq_true, decide_eq_true_eq] at hhigh hlow
  have hvalid : (0x10000 + (high - 0xD800) * 0x400 + (low - 0xDC00)).isValidChar := by
    rw [Nat.isValidChar]
    omega
  rw [Char.ofNat, dif_pos hvalid]
  rfl

/-- **What an escape is read as.** In a text that pairs its halves, and whose string is closed
somewhere behind, it is the character whose code units the escape writes, one or two of them. -/
theorem readUnits_paired (h : pairsHalves false ('\\' :: 'u' :: cs) = true)
    (hread : readUnits cs = .ok (c, rest)) (hclosed : '"' ∈ rest) :
    pairsHalves false rest = true ∧ (hexUnit? cs = some (c.toNat, rest) ∨
      ∃ high low more, hexUnit? cs = some (high, '\\' :: 'u' :: more) ∧
        hexUnit? more = some (low, rest) ∧
        c.toNat = 0x10000 + (high - 0xD800) * 0x400 + (low - 0xDC00)) := by
  rcases hunit : hexUnit? cs with _ | ⟨n, behind⟩
  · rw [readUnits, hunit] at hread
    cases hread
  rw [pairsHalves_unit hunit, Bool.and_eq_true, beq_iff_eq] at h
  obtain ⟨hlow, hpairs⟩ := h
  rcases behind with _ | ⟨d, behind⟩
  · rw [readUnits, hunit] at hread
    cases hread
  rcases hhigh : isHighHalf n with _ | _
  · -- a character on its own
    rw [readUnits, hunit] at hread
    simp only [hhigh] at hread
    obtain ⟨rfl, rfl⟩ := Prod.mk.inj (Except.ok.inj hread)
    rw [hhigh] at hpairs
    refine ⟨hpairs, .inl ?_⟩
    rw [toNat_unitChar (hexUnit?_lt hunit) hhigh hlow]
  · -- a first half; the other one stands behind it, and more than that
    rw [hhigh] at hpairs
    obtain ⟨low, more, last, heq, hsecond, hislow, hpairs⟩ := exists_of_awaited hpairs
    obtain ⟨w, x, y, z, rfl, hquote⟩ := exists_digits hsecond
    rw [readUnits, hunit, heq] at hread
    rcases last with _ | ⟨q, last⟩
    · -- a text that ends with the pair is not read as one, but then no quote follows
      simp only [hhigh, secondUnit?, List.length_cons, List.length_nil, Nat.reduceAdd, gt_iff_lt,
        lt_self_iff_false, if_false] at hread
      obtain ⟨-, rfl⟩ := Prod.mk.inj (Except.ok.inj hread)
      have hescape : '"' ∉ ['\\', 'u'] := by decide
      exact absurd hclosed (List.not_mem_append hescape hquote)
    · have hlong : 4 < (w :: x :: y :: z :: q :: last).length := by
        simp only [List.length_cons]
        omega
      simp only [hhigh, secondUnit?, gt_iff_lt, if_pos hlong, hsecond, hislow, if_true] at hread
      obtain ⟨rfl, rfl⟩ := Prod.mk.inj (Except.ok.inj hread)
      exact ⟨hpairs, .inr ⟨n, low, _, by rw [heq], hsecond, toNat_pair hhigh hislow⟩⟩

/-! ## Writing

A text that can be put in front of any other without a trace: what is behind it pairs its halves or
does not, as before. Whatever the writer makes is of this kind, from single characters up. -/

/-- Nothing in the text is half of a pair on its own, and nothing of it awaits the other half. -/
def Paired (cs : List Char) : Prop :=
  ∀ rest, pairsHalves false (cs ++ rest) = pairsHalves false rest

theorem Paired.append {ds : List Char} (h : Paired cs) (h' : Paired ds) : Paired (cs ++ ds) := by
  intro rest
  rw [List.append_assoc, h, h']

/-- A text without escapes has no halves in it. -/
theorem paired_of_not_mem (h : '\\' ∉ cs) : Paired cs := by
  intro rest
  induction cs with
  | nil => rfl
  | cons c cs ih =>
    rw [List.mem_cons, not_or] at h
    rw [List.cons_append, pairsHalves_cons (Ne.symm h.1), Bool.not_false, Bool.true_and, ih h.2]

/-- An escape by one letter. -/
theorem paired_letter (hc : c ≠ 'u') : Paired ['\\', c] := by
  intro rest
  exact pairsHalves_letter hc

/-- The escape of a code unit, with what is awaited before and behind it. -/
theorem pairsHalves_unitEscape (hn : n < 65536) :
    pairsHalves awaited (unitEscape n ++ rest) =
      (isLowHalf n == awaited && pairsHalves (isHighHalf n) rest) :=
  pairsHalves_unit (hexUnit?_hexDigits n hn rest)

/-- What is written for a character escapes a pair as a whole. -/
theorem paired_escapeChar (c : Char) : Paired (escapeChar c) := by
  have hlast := toNat_lt c
  rw [escapeChar]
  split_ifs with hself _ _ _ _ _ hplain hunit
  · rcases hself with rfl | rfl
    · exact paired_letter (by decide)
    · exact paired_letter (by decide)
  · exact paired_letter (by decide)
  · exact paired_letter (by decide)
  · exact paired_letter (by decide)
  · exact paired_letter (by decide)
  · exact paired_letter (by decide)
  · rw [not_or] at hself
    exact paired_of_not_mem (by simpa using Ne.symm hself.2)
  · -- one code unit: a character is no half
    obtain ⟨hhigh, hlow⟩ := not_half c
    intro rest
    rw [pairsHalves_unitEscape (by omega), hhigh, hlow]
    rfl
  · -- a pair of code units: the first awaits the second
    have hhigh : isHighHalf (0xD800 + (c.toNat - 0x10000) / 0x400) = true := by
      simp only [isHighHalf, Bool.and_eq_true, decide_eq_true_eq]
      omega
    have hlow : isLowHalf (0xDC00 + (c.toNat - 0x10000) % 0x400) = true := by
      simp only [isLowHalf, Bool.and_eq_true, decide_eq_true_eq]
      omega
    intro rest
    rw [List.append_assoc, pairsHalves_unitEscape (by omega), pairsHalves_unitEscape (by omega)]
    rw [hhigh, hlow, not_high_of_low hlow, not_low_of_high hhigh]
    rfl

/-- A string is escaped character by character, between its quotes. -/
theorem paired_renderText (s : String) : Paired (renderText s) := by
  have hescaped : Paired (s.toList.flatMap escapeChar) := by
    induction s.toList with
    | nil => exact paired_of_not_mem List.not_mem_nil
    | cons c cs ih =>
      rw [List.flatMap_cons]
      exact (paired_escapeChar c).append ih
  have hquote : Paired ['"'] := paired_of_not_mem (by decide)
  rw [renderText]
  exact hquote.append (hescaped.append hquote)

/-- Commas and blanks between texts are no escapes. -/
theorem paired_commaJoin {parts : List (List Char)} (h : ∀ x ∈ parts, Paired x) :
    Paired (commaJoin parts) := by
  induction parts with
  | nil => exact paired_of_not_mem List.not_mem_nil
  | cons x parts ih =>
    rw [List.forall_mem_cons] at h
    by_cases hparts : parts = []
    · rw [hparts]
      exact h.1
    · have hcomma : Paired [',', ' '] := paired_of_not_mem (by decide)
      rw [commaJoin_cons x hparts]
      exact h.1.append (hcomma.append (ih h.2))

/-- **The text of a value** that can be read back has no half of a pair on its own. -/
theorem Plain.paired {depth : Nat} {v : Value} (h : Plain depth v) : Paired (renderChars v) := by
  induction h with
  | null => exact paired_of_not_mem (by decide)
  | bool b =>
    cases b
    · exact paired_of_not_mem (by decide)
    · exact paired_of_not_mem (by decide)
  | @int _ n hlen =>
    -- digits, with a sign in front of them or not
    have hdigits : ∀ m, '\\' ∉ Nat.toDigits 10 m := fun m hm =>
      absurd (Nat.isDigit_of_mem_toDigits (by omega) (by omega) hm) (by decide)
    have hsign : Paired ['-'] := paired_of_not_mem (by decide)
    rcases n with m | m
    · rw [renderChars_ofNat]
      exact paired_of_not_mem (hdigits m)
    · rw [renderChars_negSucc]
      exact hsign.append (paired_of_not_mem (hdigits (m + 1)))
  | text s => exact paired_renderText s
  | @list _ items hitems ih =>
    have hopen : Paired ['['] := paired_of_not_mem (by decide)
    have hclose : Paired [']'] := paired_of_not_mem (by decide)
    rw [renderChars, renderItems_eq_map]
    refine hopen.append ((paired_commaJoin ?_).append hclose)
    exact List.forall_mem_map.mpr ih
  | @object _ fields hkeys hfields ih =>
    have hopen : Paired ['{'] := paired_of_not_mem (by decide)
    have hclose : Paired ['}'] := paired_of_not_mem (by decide)
    have hcolon : Paired [':', ' '] := paired_of_not_mem (by decide)
    rw [renderChars, renderFields_eq_map]
    refine hopen.append ((paired_commaJoin (List.forall_mem_map.mpr fun f hf => ?_)).append hclose)
    exact (paired_renderText f.1).append (hcolon.append (ih f hf))

end CodeCatalog.Json
