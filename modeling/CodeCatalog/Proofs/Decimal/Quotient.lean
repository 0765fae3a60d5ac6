/-
How a rounded quotient compares with a number, told by whole numbers.

A quotient is rounded to a multiple of a step that depends on the quotient. Compared with a multiple
of the step `2 ^ e` whose factor has 53 binary places and is even, only one step matters: what is
smaller by a power of two rounds to the next power of two at most, what is greater by one rounds to
that power at least, and what lies between is rounded half up to an even factor. So the rounded
quotient reaches such a number just if the exact one reaches the middle between it and its lower
neighbour (`le_quotientUnits_iff`). The bound of the finite values is such a number, too.
-/
import CodeCatalog.Proofs.Decimal.Rounding

set_option autoImplicit false

namespace CodeCatalog.Binary64

variable {n d b c e : Nat}

/-! ## Rounding to a whole number

A rounded quotient reaches a bound just if the quotient comes within half a unit below it, where a
tie goes to the even neighbour. -/

/-- An even number is reached half a step before it. -/
theorem le_roundQuotient_iff (hd : 0 < d) (heven : c % 2 = 0) :
    c ≤ roundQuotient n d ↔ 2 * c * d ≤ 2 * n + d := by
  have hsplit := Nat.div_add_mod' n d
  have hrest := Nat.mod_lt n hd
  unfold roundQuotient
  dsimp only
  generalize n / d = q at hsplit ⊢
  generalize n % d = r at hsplit hrest ⊢
  subst hsplit
  rcases Nat.lt_trichotomy c (q + 1) with hlt | rfl | hgt
  · -- the quotient itself is no less than `c`
    have hle : c * d ≤ q * d := Nat.mul_le_mul_right d (by omega)
    refine iff_of_true (by split_ifs <;> omega) ?_
    rw [Nat.mul_assoc]
    omega
  · -- it is less by less than one, so what matters is which half the rest lies in
    have hmid : 2 * (q + 1) * d = 2 * (q * d) + 2 * d := by ring
    rw [hmid]
    split_ifs <;> omega
  · have hle : (q + 2) * d ≤ c * d := Nat.mul_le_mul_right d (by omega)
    have htwo : (q + 2) * d = q * d + 2 * d := by ring
    refine iff_of_false (by split_ifs <;> omega) ?_
    rw [Nat.mul_assoc]
    omega

/-! ## Rounding to the format

The same at the distance that neighbouring numbers of the format have at this size. The distance
depends on the whole part of the quotient alone. -/

/-- The rounded quotient of two numbers of units. -/
def quotientUnits (n d : Nat) : Nat :=
  let step := quantum (n / d)
  roundQuotient n (d * step) * step

theorem ofRatio_eq (z : Bool) (n d : Nat) : ofRatio z n d =
    if quotientUnits (n * unitsPerOne) d < unitsLimit
    then .finite z (quotientUnits (n * unitsPerOne) d) else .infinite z := rfl

/-- Rounding a quotient to the format goes past no number of the format that the quotient does not
go past. -/
theorem quotientUnits_le (hd : 0 < d) (hdvd : quantum (n / d) ∣ b) (h : n ≤ b * d) :
    quotientUnits n d ≤ b := by
  obtain ⟨k, rfl⟩ := hdvd
  rw [quotientUnits, Nat.mul_comm (quantum _) k]
  refine Nat.mul_le_mul_right _ (roundQuotient_le ?_ (Nat.mul_pos hd (quantum_pos _)))
  calc n ≤ quantum (n / d) * k * d := h
    _ = k * (d * quantum (n / d)) := by ring

/-- Rounding a quotient to the format falls behind no number of the format that the quotient
reaches. -/
theorem le_quotientUnits (hd : 0 < d) (hdvd : quantum (n / d) ∣ b) (h : b * d ≤ n) :
    b ≤ quotientUnits n d := by
  obtain ⟨k, rfl⟩ := hdvd
  rw [quotientUnits, Nat.mul_comm (quantum _) k]
  refine Nat.mul_le_mul_right _ (le_roundQuotient ?_ (Nat.mul_pos hd (quantum_pos _)))
  calc k * (d * quantum (n / d)) = quantum (n / d) * k * d := by ring
    _ ≤ n := h

/-- **A rounded quotient reaches a number** of 53 binary places, the last of them even, just if the
exact quotient reaches the middle between it and its lower neighbour. -/
theorem le_quotientUnits_iff (hd : 0 < d) (heven : c % 2 = 0) (hlow : 2 ^ 52 < c)
    (hhigh : c ≤ 2 ^ 53) : c * 2 ^ e ≤ quotientUnits n d ↔ (2 * c - 1) * 2 ^ e * d ≤ 2 * n := by
  have hsplit := Nat.div_add_mod' n d
  have hrest := Nat.mod_lt n hd
  have hbottom : (2 : Nat) ^ (e + 52) = 2 ^ 52 * 2 ^ e := by rw [Nat.pow_add, Nat.mul_comm]
  have htop : (2 : Nat) ^ (e + 53) = 2 ^ 53 * 2 ^ e := by rw [Nat.pow_add, Nat.mul_comm]
  rcases Nat.lt_trichotomy (n / d).log2 (e + 52) with hless | hsame | hmore
  · -- the quotient is less than the power of two below the number
    have hquotient : n / d < 2 ^ (e + 52) :=
      Nat.lt_of_lt_of_le Nat.lt_log2_self (Nat.pow_le_pow_right (by decide) hless)
    have hn : n < 2 ^ (e + 52) * d := Nat.lt_mul_of_div_lt hquotient hd
    refine iff_of_false (Nat.not_le.mpr ?_) (Nat.not_le.mpr ?_)
    · calc quotientUnits n d ≤ 2 ^ (e + 52) :=
            quotientUnits_le hd (quantum_dvd_pow hless.le) hn.le
        _ < c * 2 ^ e := by
            rw [hbottom]
            exact Nat.mul_lt_mul_of_pos_right hlow (Nat.two_pow_pos e)
    · calc 2 * n < 2 * (2 ^ (e + 52) * d) := by omega
        _ = 2 * 2 ^ 52 * (2 ^ e * d) := by rw [hbottom]; ring
        _ ≤ (2 * c - 1) * (2 ^ e * d) := Nat.mul_le_mul_right _ (by omega)
        _ = (2 * c - 1) * 2 ^ e * d := by ring
  · -- the step is the one that the number is a multiple of
    have hquantum : quantum (n / d) = 2 ^ e := by
      rw [quantum_eq_pow, hsame, Nat.add_sub_cancel]
    rw [quotientUnits, hquantum, Nat.mul_le_mul_right_iff (Nat.two_pow_pos e),
      le_roundQuotient_iff (Nat.mul_pos hd (Nat.two_pow_pos e)) heven]
    obtain ⟨k, hk⟩ : ∃ k, 2 * c = k + 1 := ⟨2 * c - 1, by omega⟩
    have hnumber : 2 * c * (d * 2 ^ e) = k * 2 ^ e * d + d * 2 ^ e := by
      rw [hk]
      ring
    rw [hnumber, Nat.add_le_add_iff_right, hk, Nat.add_sub_cancel]
  · -- the quotient is no less than the power of two above the number
    have hquotient : 2 ^ (n / d).log2 ≤ n / d := Nat.log2_self_le (by rintro h; simp [h] at hmore)
    have habove : c * 2 ^ e ≤ 2 ^ (n / d).log2 :=
      calc c * 2 ^ e ≤ 2 ^ 53 * 2 ^ e := Nat.mul_le_mul_right _ hhigh
        _ = 2 ^ (e + 53) := htop.symm
        _ ≤ 2 ^ (n / d).log2 := Nat.pow_le_pow_right (by decide) hmore
    have hn : 2 ^ (n / d).log2 * d ≤ n := (Nat.le_div_iff_mul_le hd).mp hquotient
    refine iff_of_true ?_ ?_
    · exact habove.trans (le_quotientUnits hd (quantum_dvd_pow le_rfl) hn)
    · calc (2 * c - 1) * 2 ^ e * d ≤ 2 * c * 2 ^ e * d := by gcongr; omega
        _ = 2 * (c * 2 ^ e * d) := by ring
        _ ≤ 2 * n := Nat.mul_le_mul_left 2 ((Nat.mul_le_mul_right d habove).trans hn)

/-! ## Quotients of whole numbers

What is asked of a quotient in the settings is whether it reaches a bound and whether it is a finite
number. Both are comparisons of whole numbers. -/

/-- The least quotient that is too large for a finite value: the middle between the greatest of them
and the power of two above it. -/
def quotientLimit : Nat := Nat.pow 2 1024 - Nat.pow 2 970

/-- A comparison of units, divided by the units. -/
theorem scaled_le_iff {m k : Nat} :
    m * (2 * unitsPerOne) * d ≤ 2 * (k * unitsPerOne) ↔ m * d ≤ k := by
  have hones : 0 < 2 * unitsPerOne := by decide +kernel
  rw [Nat.mul_right_comm, Nat.mul_left_comm 2 k, Nat.mul_le_mul_right_iff hones]

/-- **When a quotient is too large.** -/
theorem isFinite_ofRatio_iff (z : Bool) (hd : 0 < d) :
    (ofRatio z n d).isFinite = true ↔ n < quotientLimit * d := by
  have hlimit : unitsLimit = 2 ^ 53 * 2 ^ 2045 := by decide +kernel
  have hmiddle : (2 * 2 ^ 53 - 1) * 2 ^ 2045 = quotientLimit * (2 * unitsPerOne) := by
    decide +kernel
  -- a quotient reaches the limit from the middle between it and the greatest finite value on
  have hreach : unitsLimit ≤ quotientUnits (n * unitsPerOne) d ↔ quotientLimit * d ≤ n := by
    rw [hlimit, le_quotientUnits_iff hd (by decide) (by decide) le_rfl, hmiddle, scaled_le_iff]
  have hfinite : (ofRatio z n d).isFinite = true ↔
      quotientUnits (n * unitsPerOne) d < unitsLimit := by
    rw [ofRatio_eq]
    split_ifs with h
    · exact iff_of_true rfl h
    · exact iff_of_false nofun h
  rw [hfinite, ← Nat.not_le, hreach, Nat.not_le]

end CodeCatalog.Binary64
