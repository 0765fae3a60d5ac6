/-
A reader of JSON gives proper values.

A key that comes again in an object takes its first place, so no key comes twice; and a whole number is
written with no more digits than it was read from, since more digits only write greater numbers. All
parts of the reader keep this, by induction on the fuel that they share (`yields_readers`), and so what
is read from a whole text is proper (`proper_of_readChars`).
-/
import CodeCatalog.Proofs.Element.Restoring
import CodeCatalog.Proofs.Json.Limits

set_option autoImplicit false

namespace CodeCatalog.Json

variable {α β : Type} {P : α → Prop} {Q : β → Prop} {cs rest : List Char}

/-- What a part of the reader gives has a property. -/
def Yields (P : α → Prop) (r : Except ReadError (α × List Char)) : Prop :=
  ∀ a rest, r = .ok (a, rest) → P a

namespace Yields

/-- A value that has the property is given. -/
theorem ok {a : α} (h : P a) (rest : List Char) : Yields P (.ok (a, rest)) := by
  intro a' rest' heq
  obtain ⟨rfl, -⟩ := Prod.mk.inj (Except.ok.inj heq)
  exact h

theorem error (e : ReadError) : Yields P (.error e) := by
  intro a rest heq
  exact absurd heq nofun

theorem any (r : Except ReadError (α × List Char)) : Yields (fun _ => True) r :=
  fun _ _ _ => trivial

/-- One part of the reader after another. -/
theorem bind {x : Except ReadError (α × List Char)}
    {f : α × List Char → Except ReadError (β × List Char)} (hx : Yields P x)
    (hf : ∀ a rest, P a → Yields Q (f (a, rest))) : Yields Q (x >>= f) := by
  rcases x with e | ⟨a, rest⟩
  · exact error e
  · exact hf a rest (hx a rest rfl)

end Yields

/-! ## Whole numbers

A number has been read from no more digits than may be read, so its own digits are no more than
that, leading zeros or not. -/

/-- A digit is less than ten. -/
theorem digitValue_lt {c : Char} (h : c.isDigit = true) : digitValue c < 10 := by
  simp only [Char.isDigit, Bool.and_eq_true, decide_eq_true_eq] at h
  have hle : c.toNat ≤ 57 := h.2
  rw [digitValue]
  omega

/-- Digits behind a value write less than the next value with as many zeros behind it. -/
theorem digitsValue_lt {ds : List Nat} (h : ∀ d ∈ ds, d < 10) (value : Nat) :
    Text.digitsValue value ds < (value + 1) * 10 ^ ds.length := by
  induction ds generalizing value with
  | nil =>
    show value < _
    rw [List.length_nil]
    omega
  | cons d ds ih =>
    rw [List.forall_mem_cons] at h
    -- the worst digit is a nine
    have hnext : 10 * value + d + 1 ≤ (value + 1) * 10 := by omega
    calc Text.digitsValue value (d :: ds) = Text.digitsValue (10 * value + d) ds := rfl
      _ < (10 * value + d + 1) * 10 ^ ds.length := ih h.2 (10 * value + d)
      _ ≤ (value + 1) * 10 * 10 ^ ds.length := Nat.mul_le_mul_right _ hnext
      _ = (value + 1) * 10 ^ (d :: ds).length := by rw [List.length_cons, pow_succ]; ring

/-- A number that is read from digits is not too long if they are not. -/
theorem readableWhole_decimalValue {ds : List Char} (hdigits : ∀ c ∈ ds, c.isDigit = true)
    (hlen : ds.length ≤ Text.maxWholeDigits) {n : Int} (hn : n.natAbs = decimalValue ds) :
    ReadableWhole n := by
  have hvalues : ∀ d ∈ ds.map digitValue, d < 10 := by
    intro d hd
    obtain ⟨c, hc, rfl⟩ := List.mem_map.mp hd
    exact digitValue_lt (hdigits c hc)
  -- a number with so many digits is less than the next power of ten, and so is written with as many
  have hlt : decimalValue ds < 10 ^ ds.length := by
    have h := digitsValue_lt hvalues 0
    rwa [List.length_map, Nat.zero_add, Nat.one_mul] at h
  have hmost : decimalValue ds < 10 ^ Text.maxWholeDigits :=
    lt_of_lt_of_le hlt (Nat.pow_le_pow_right (by omega) hlen)
  rw [ReadableWhole, hn]
  exact Nat.toDigits_length 10 _ _ (by decide) hmost

/-- A whole number that is read has few enough digits to be written and read again. -/
theorem yields_readNumber (cs : List Char) : Yields Value.Proper (readNumber cs) := by
  rw [readNumber.eq_def]
  split
  rename_i negative body _
  split
  · exact Yields.error _
  -- only a whole number can be too long to be written again, and the reader has counted its digits
  · rename_i whole rest hwhole
    obtain ⟨-, hdigits⟩ := wholePart?_spec hwhole
    dsimp only
    split
    · split
      · exact Yields.error _
      · rename_i hshort
        refine Yields.ok (.int (readableWhole_decimalValue hdigits (Nat.not_lt.mp hshort) ?_)) _
        split
        · rw [Int.natAbs_neg, Int.natAbs_natCast]
        · rw [Int.natAbs_natCast]
    · exact Yields.ok (.real _) _
    · exact Yields.ok (.real _) _

/-! ## Objects

A key that comes again takes the place of the first one, so an object that is put together this way
has each key once. -/

/-- Fields with no key twice and proper values. -/
def Fields.Proper (fields : Fields) : Prop :=
  (fields.map (·.1)).Nodup ∧ ∀ f ∈ fields, f.2.Proper

/-- A field that is put to proper fields leaves them proper. -/
theorem Fields.Proper.put {fields : Fields} (h : fields.Proper) (key : String) {v : Value}
    (hv : v.Proper) : (fields.put key v).Proper := by
  rw [Fields.put]
  split
  · refine ⟨?_, ?_⟩
    · -- every key stays where it is
      have hkeys : (fields.map fun f => if f.1 = key then (key, v) else f).map (·.1) =
          fields.map (·.1) := by
        rw [List.map_map]
        refine List.map_congr_left fun f _ => ?_
        by_cases hf : f.1 = key
        · simp [hf]
        · simp [hf]
      rw [hkeys]
      exact h.1
    · intro f hf
      obtain ⟨g, hg, rfl⟩ := List.mem_map.mp hf
      split
      · exact hv
      · exact h.2 g hg
  · rename_i hnew
    have hkey : key ∉ fields.map (·.1) := by
      intro hmem
      obtain ⟨f, hf, hname⟩ := List.mem_map.mp hmem
      exact hnew (List.any_eq_true.mpr ⟨f, hf, decide_eq_true hname⟩)
    refine ⟨?_, List.forall_mem_append.mpr ⟨h.2, List.forall_mem_singleton.mpr hv⟩⟩
    rw [List.map_append, List.nodup_append]
    refine ⟨h.1, List.nodup_singleton _, ?_⟩
    intro a ha b hb
    rw [List.mem_singleton.mp hb]
    rintro rfl
    exact hkey ha

/-! ## Values

Each reader gives proper things if those that it calls do. The induction is on the fuel, for the
three readers at once. -/

/-- The words stand for single values, which are proper. -/
theorem proper_of_readWord? {v : Value} (h : readWord? cs = some (v, rest)) : v.Proper := by
  have hwords : ∀ w ∈ words, w.2.Proper := by
    intro w hw
    simp only [words, List.mem_cons, List.not_mem_nil, or_false] at hw
    rcases hw with rfl | rfl | rfl | rfl | rfl | rfl
    · exact .null
    · exact .bool _
    · exact .bool _
    · exact .real _
    · exact .real _
    · exact .real _
  -- the word that is read is one of the six, with its value
  obtain ⟨⟨word, value⟩, hmem, hword⟩ := List.exists_of_findSome?_eq_some h
  obtain ⟨left, -, heq⟩ := Option.map_eq_some_iff.mp hword
  rw [← (Prod.mk.inj heq).1]
  exact hwords _ hmem

section Readers

variable {fuel : Nat}

/-- A value is proper if its items and its fields are. -/
theorem yields_readValue
    (hitems : ∀ depth cs, Yields (fun vs => ∀ v ∈ vs, Value.Proper v) (readItems fuel depth cs))
    (hfields : ∀ depth before cs, before.Proper →
      Yields Fields.Proper (readFields fuel depth before cs)) :
    ∀ depth cs, Yields Value.Proper (readValue (fuel + 1) depth cs) := by
  have hnone : Fields.Proper [] := ⟨List.nodup_nil, List.forall_mem_nil _⟩
  -- the value is sought by its first character, in the order in which the reader looks
  refine readValue_cases ?nothing ?text ?deep ?emptyList ?list ?emptyObject ?object ?word ?number
  case nothing => exact fun _ => Yields.error _
  case text =>
    intro _ rest
    refine (Yields.any (readString fuel rest)).bind fun s left _ => ?_
    exact Yields.ok (.text s) left
  case deep => exact fun _ _ _ => Yields.error _
  case emptyList => exact fun _ _ left _ => Yields.ok (.list (List.forall_mem_nil _)) left
  case list =>
    intro depth _
    exact (hitems depth _).bind fun vs left hvs => Yields.ok (.list hvs) left
  case emptyObject => exact fun _ _ left _ => Yields.ok (.object hnone.1 hnone.2) left
  case object =>
    intro depth _
    refine (hfields depth [] _ hnone).bind fun fields left h => ?_
    exact Yields.ok (.object h.1 h.2) left
  case word => exact fun _ _ _ left hfound => Yields.ok (proper_of_readWord? hfound) left
  case number => exact fun _ cs => yields_readNumber cs

/-- Items are proper one by one. -/
theorem yields_readItems (hvalue : ∀ depth cs, Yields Value.Proper (readValue fuel depth cs))
    (hitems : ∀ depth cs, Yields (fun vs => ∀ v ∈ vs, Value.Proper v) (readItems fuel depth cs))
    (depth : Nat) (cs : List Char) :
    Yields (fun vs => ∀ v ∈ vs, Value.Proper v) (readItems (fuel + 1) depth cs) := by
  rw [readItems]
  refine (hvalue depth cs).bind fun v rest hv => ?_
  simp only
  split
  · exact Yields.ok (List.forall_mem_singleton.mpr hv) _
  · refine (hitems depth _).bind fun vs rest hvs => ?_
    exact Yields.ok (List.forall_mem_cons.mpr ⟨hv, hvs⟩) rest
  · exact Yields.error _

/-- Fields are put one by one, so a key that comes again stands once. -/
theorem yields_readFields (hvalue : ∀ depth cs, Yields Value.Proper (readValue fuel depth cs))
    (hfields : ∀ depth before cs, before.Proper →
      Yields Fields.Proper (readFields fuel depth before cs))
    (depth : Nat) (before : Fields) (cs : List Char) (hbefore : before.Proper) :
    Yields Fields.Proper (readFields (fuel + 1) depth before cs) := by
  rw [readFields]
  split
  · rename_i quoted _
    refine (Yields.any (readString fuel quoted)).bind fun key rest _ => ?_
    simp only
    split
    -- the key of a field is read, then a colon, then its value, and then the reader asks whether
    -- more fields follow
    · refine (hvalue depth _).bind fun v rest hv => ?_
      have hmore := hbefore.put key hv
      simp only
      split
      · exact Yields.ok hmore _
      · exact hfields depth _ _ hmore
      · exact Yields.error _
    · exact Yields.error _
  · exact Yields.error _

end Readers

/-- The three readers, by induction on the fuel that they share. -/
theorem yields_readers (fuel : Nat) :
    (∀ depth cs, Yields Value.Proper (readValue fuel depth cs)) ∧
    (∀ depth cs, Yields (fun vs => ∀ v ∈ vs, Value.Proper v) (readItems fuel depth cs)) ∧
    (∀ depth before cs, before.Proper →
      Yields Fields.Proper (readFields fuel depth before cs)) := by
  induction fuel with
  | zero =>
    exact ⟨fun _ _ => Yields.error _, fun _ _ => Yields.error _, fun _ _ _ _ => Yields.error _⟩
  | succ fuel ih =>
    obtain ⟨hvalue, hitems, hfields⟩ := ih
    exact ⟨yields_readValue hitems hfields, yields_readItems hvalue hitems,
      yields_readFields hvalue hfields⟩

/-- **What a text writes** is proper. -/
theorem proper_of_readChars {v : Value} (h : readChars cs = .ok v) : v.Proper := by
  have hread := (yields_readers (2 * cs.length + 2)).1 maxDepth (skipSpace cs)
  rw [readChars.eq_def] at h
  split at h
  · cases h
  · split at h
    · cases h
    · rename_i v' rest hvalue
      split at h
      · cases h
        exact hread _ rest hvalue
      · cases h

end CodeCatalog.Json
