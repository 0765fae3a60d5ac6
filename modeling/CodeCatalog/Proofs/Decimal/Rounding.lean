/-
How the rounding of a difference compares with the exact difference.

Rounding is to a multiple of a step, the `quantum`, which is a power of two that depends on the
number. What carries all comparisons is that the powers of two that are no less than a step are
among its multiples: of two numbers with different steps, such a power lies between them. So
rounding keeps the order (`nearest_mono`), and it leaves alone what the format can represent. A
difference that is measured as less than a value is then less than it, and one that is less is
measured as less, unless it is rounded up to the value itself (`ofUnits_lt_iff`).
-/
import CodeCatalog.Decimal.Binary64
import Mathlib.Tactic

set_option autoImplicit false

namespace CodeCatalog.Binary64

/-! ## Rounding to a multiple

The laws of rounding a quotient of whole numbers: it is monotone, and whole numbers are kept.
Everything about the format follows from these two. -/

section Quotient

variable {n m b d k : Nat}

/-- A common factor cancels before the rounding. -/
theorem roundQuotient_mul (hk : 0 < k) (n d : Nat) :
    roundQuotient (n * k) (d * k) = roundQuotient n d := by
  have hscale : ∀ a b : Nat, a * k < b * k ↔ a < b := fun a b => Nat.mul_lt_mul_right hk
  unfold roundQuotient
  rw [Nat.mul_div_mul_right n d hk, Nat.mul_mod_mul_right]
  dsimp only
  rw [← Nat.mul_assoc 2 (n % d) k]
  simp only [hscale]

/-- Rounding falls behind no whole number that the quotient reaches. -/
theorem le_roundQuotient (h : b * d ≤ n) (hd : 0 < d) : b ≤ roundQuotient n d := by
  have hfloor : b ≤ n / d := (Nat.le_div_iff_mul_le hd).mpr h
  unfold roundQuotient
  dsimp only
  split_ifs <;> omega

/-- Rounding goes past no whole number that the quotient does not go past. -/
theorem roundQuotient_le (h : n ≤ b * d) (hd : 0 < d) : roundQuotient n d ≤ b := by
  have hfloor : n / d ≤ b := Nat.div_le_of_le_mul (by rwa [Nat.mul_comm])
  -- what is rounded up leaves a rest, so its quotient is less
  have hrest : 0 < n % d → n / d < b := by
    intro hr
    apply Nat.lt_of_mul_lt_mul_right (a := d)
    have hsplit := Nat.div_add_mod' n d
    omega
  unfold roundQuotient
  dsimp only
  split_ifs <;> omega

/-- Larger quotients are rounded to no smaller numbers. -/
theorem roundQuotient_mono (h : m ≤ n) (hd : 0 < d) : roundQuotient m d ≤ roundQuotient n d := by
  have hfloor : m / d ≤ n / d := Nat.div_le_div_right h
  rcases Nat.lt_or_eq_of_le hfloor with hlt | heq
  · -- there is a whole quotient between the two
    calc roundQuotient m d ≤ n / d := by
          apply roundQuotient_le _ hd
          exact (Nat.lt_mul_of_div_lt hlt hd).le
      _ ≤ roundQuotient n d := le_roundQuotient (Nat.div_mul_le_self n d) hd
  · have hrest : m % d ≤ n % d := by
      have hm := Nat.div_add_mod' m d
      have hn := Nat.div_add_mod' n d
      rw [heq] at hm
      omega
    unfold roundQuotient
    dsimp only
    rw [heq]
    split_ifs <;> omega

end Quotient

/-! ## Rounding to the format

Rounding to the format is rounding to a multiple of a power of two that grows with the number. At a
change of the power the larger one divides the bound, so monotonicity passes over it. -/

/-- The whole number of units that rounding makes of one. -/
def nearest (n : Nat) : Nat :=
  roundQuotient n (quantum n) * quantum n

section Nearest

variable {n m b : Nat}

/-- The distance of neighbouring numbers is a power of two, and one unit for small numbers. -/
theorem quantum_eq_pow (n : Nat) : quantum n = 2 ^ (n.log2 - 52) := by
  unfold quantum
  split_ifs with h
  · have hlog : n.log2 - 52 = 0 := by
      rcases Nat.eq_zero_or_pos n with rfl | hn
      · rfl
      · have := (Nat.log2_lt hn.ne').mpr h
        omega
    rw [hlog, Nat.pow_zero]
  · rfl

theorem quantum_pos (n : Nat) : 0 < quantum n := by
  rw [quantum_eq_pow]
  exact Nat.two_pow_pos _

/-- Rounding up stops at a number of the format. -/
theorem nearest_le (hdvd : quantum n ∣ b) (h : n ≤ b) : nearest n ≤ b := by
  obtain ⟨c, rfl⟩ := hdvd
  rw [nearest, Nat.mul_comm (quantum n) c]
  rw [Nat.mul_comm] at h
  exact Nat.mul_le_mul_right _ (roundQuotient_le h (quantum_pos n))

/-- Rounding down stops at a number of the format. -/
theorem le_nearest (hdvd : quantum n ∣ b) (h : b ≤ n) : b ≤ nearest n := by
  obtain ⟨c, rfl⟩ := hdvd
  rw [nearest, Nat.mul_comm (quantum n) c]
  rw [Nat.mul_comm] at h
  exact Nat.mul_le_mul_right _ (le_roundQuotient h (quantum_pos n))

/-- The step of a number divides the power of two above it. -/
theorem quantum_dvd_pow {e : Nat} (h : n.log2 ≤ e) : quantum n ∣ 2 ^ e := by
  rw [quantum_eq_pow]
  exact Nat.pow_dvd_pow 2 (by omega)

/-- **Rounding keeps the order.** -/
theorem nearest_mono (h : m ≤ n) : nearest m ≤ nearest n := by
  have hlog : m.log2 ≤ n.log2 := by
    rw [Nat.log2_eq_log_two, Nat.log2_eq_log_two]
    exact Nat.log_mono_right h
  rcases Nat.lt_or_eq_of_le hlog with hlt | heq
  · -- a power of two lies between the two, and both round towards it
    have hn : n ≠ 0 := by
      rintro rfl
      exact absurd hlt (Nat.not_lt_zero _)
    have hm : m ≤ 2 ^ n.log2 :=
      (Nat.lt_of_lt_of_le Nat.lt_log2_self (Nat.pow_le_pow_right (by decide) hlt)).le
    exact (nearest_le (quantum_dvd_pow hlog) hm).trans
      (le_nearest (quantum_dvd_pow le_rfl) (Nat.log2_self_le hn))
  · have hstep : quantum m = quantum n := by
      rw [quantum_eq_pow, quantum_eq_pow, heq]
    rw [nearest, nearest, hstep]
    exact Nat.mul_le_mul_right _ (roundQuotient_mono h (quantum_pos n))

theorem nearest_pos (h : 0 < n) : 0 < nearest n :=
  (Nat.two_pow_pos _).trans_le (le_nearest (quantum_dvd_pow le_rfl) (Nat.log2_self_le h.ne'))

theorem nearest_of_dvd (h : quantum n ∣ n) : nearest n = n :=
  Nat.le_antisymm (nearest_le h le_rfl) (le_nearest h le_rfl)

end Nearest

/-! ## Differences

A difference of two numbers of the format is a whole number of units that is rounded once. A
comparison of it with a number of the format can be made before the rounding, but for a margin below
that number that is told exactly. -/

/-- The number of units of a finite value, with its sign. -/
def signedUnits : Binary64 → Int
  | finite negative units => signed negative units
  | _ => 0

/-- A value of the format that is no less than zero. -/
def IsAmount : Binary64 → Prop
  | nan => False
  | infinite negative => negative = false
  | finite negative units =>
    quantum units ∣ units ∧ units < unitsLimit ∧ (negative = true → units = 0)

instance : DecidablePred IsAmount
  | nan => inferInstanceAs (Decidable False)
  | infinite _ => inferInstanceAs (Decidable (_ = _))
  | finite _ _ => inferInstanceAs (Decidable (_ ∧ _ ∧ (_ → _)))

/-- A whole number of units is less than a value, without any rounding. -/
def Below (n : Int) : Binary64 → Prop
  | nan => False
  | infinite negative => negative = false
  | finite negative units => n < signed negative units

/-- What a rounded number of units has to stay under in order to be less than an amount. -/
def ceiling : Binary64 → Nat
  | nan => 0
  | infinite _ => unitsLimit
  | finite _ units => units

section Difference

variable {x y i : Binary64} {z : Bool} {m n : Int} {k : Nat}

/-- A number of units is rounded, and too many of them are infinitely many. -/
theorem ofUnits_eq (z : Bool) (n : Int) : ofUnits z n =
    if n = 0 then .finite z 0
    else if nearest n.natAbs < unitsLimit then .finite (n < 0) (nearest n.natAbs)
    else .infinite (n < 0) := by
  have hones : 0 < unitsPerOne := by decide +kernel
  have hround : ∀ k : Nat, roundQuotient (k * unitsPerOne) (unitsPerOne * quantum k) * quantum k =
      nearest k := by
    intro k
    rw [Nat.mul_comm unitsPerOne, roundQuotient_mul hones, nearest]
  rw [ofUnits, ofRatio, Nat.mul_div_cancel _ hones, hround]

/-- Finite values are subtracted exactly, and then rounded. -/
theorem sub_eq_ofUnits (hx : x.isFinite = true) (hy : y.isFinite = true) :
    ∃ z, x.sub y = ofUnits z (x.signedUnits - y.signedUnits) := by
  rcases x with _ | _ | ⟨s, u⟩
  · exact absurd hx nofun
  · exact absurd hx nofun
  rcases y with _ | _ | ⟨t, v⟩
  · exact absurd hy nofun
  · exact absurd hy nofun
  refine ⟨s && !t, congrArg (ofUnits (s && !t)) ?_⟩
  rw [signedUnits, signedUnits, Int.sub_eq_add_neg]
  congr 1
  rcases t <;> simp [signed]

/-- An amount is compared with the rounded number. -/
theorem ofUnits_natCast_lt (hi : i.IsAmount) :
    (ofUnits z (k : Int)).lt i = true ↔ nearest k < i.ceiling := by
  have hlimit : 0 < unitsLimit := by decide +kernel
  have hvalue : ∀ s, (finite s 0).lt i = (finite false 0).lt i := by
    intro s
    rcases i with _ | _ | ⟨t, v⟩
    · rfl
    · rfl
    · rcases s <;> simp [lt, signed]
  -- zero is rounded to itself, with either sign
  have hpositive : (ofUnits z (k : Int)).lt i =
      (if nearest k < unitsLimit then finite false (nearest k) else infinite false).lt i := by
    rw [ofUnits_eq]
    rcases Nat.eq_zero_or_pos k with rfl | hk
    · have hzero : nearest 0 = 0 := rfl
      rw [if_pos Int.natCast_zero, hvalue, hzero, if_pos hlimit]
    · rw [if_neg (by omega), Int.natAbs_natCast, decide_eq_false (by omega)]
  rw [hpositive]
  rcases i with _ | s | ⟨s, u⟩
  · exact absurd hi id
  · obtain rfl : s = false := hi
    rw [ceiling]
    split_ifs with h
    · exact iff_of_true rfl h
    · exact iff_of_false nofun h
  · obtain ⟨-, hu, hzero⟩ := hi
    rw [ceiling]
    rcases s
    · split_ifs with h
      · simp [lt, signed]
      · exact iff_of_false nofun (by omega)
    · obtain rfl := hzero rfl
      split_ifs with h
      · simp [lt, signed]
      · exact iff_of_false nofun (by omega)

/-- What is less than nothing is less than every amount. -/
theorem ofUnits_neg_lt (hi : i.IsAmount) (hn : n < 0) : (ofUnits z n).lt i = true := by
  have hpos : 0 < nearest n.natAbs := nearest_pos (by omega)
  rw [ofUnits_eq, if_neg (by omega), decide_eq_true hn]
  -- an amount is infinity or a number that is not negative, and what is rounded here lies below
  -- both, also where it overflows
  rcases i with _ | s | ⟨s, u⟩
  · exact absurd hi id
  · obtain rfl : s = false := hi
    split_ifs
    · rfl
    · rfl
  · split_ifs
    · have hu : 0 ≤ signed s u := by
        rcases s
        · simp [signed]
        · simp [signed, hi.2.2 rfl]
      have hless : signed true (nearest n.natAbs) < 0 := by
        simp [signed, hpos]
      exact decide_eq_true (hless.trans_le hu)
    · rfl

/-- **Older differences.** A difference that is measured as less than an amount is so measured in
place of a greater one, too. -/
theorem ofUnits_lt_mono {z' : Bool} (hi : i.IsAmount) (h : m ≤ n) (hn : (ofUnits z n).lt i = true) :
    (ofUnits z' m).lt i = true := by
  rcases Int.lt_or_le m 0 with hm | hm
  · exact ofUnits_neg_lt hi hm
  · obtain ⟨k, rfl⟩ := Int.eq_ofNat_of_zero_le hm
    obtain ⟨l, rfl⟩ := Int.eq_ofNat_of_zero_le (hm.trans h)
    rw [ofUnits_natCast_lt hi] at hn ⊢
    exact (nearest_mono (Int.ofNat_le.mp h)).trans_lt hn

/-- No number is less than itself, and what is no number is less than nothing. -/
theorem lt_irrefl (x : Binary64) : x.lt x = false := by
  rcases x with _ | s | ⟨s, u⟩
  · rfl
  · rcases s <;> rfl
  · exact decide_eq_false (Int.lt_irrefl _)

/-- A value of the format is rounded to itself. -/
theorem IsAmount.nearest_le {s : Bool} {u : Nat} (hi : (finite s u).IsAmount) (h : k ≤ u) :
    nearest k ≤ u :=
  (nearest_mono h).trans (nearest_of_dvd hi.1).le

theorem IsAmount.le_nearest {s : Bool} {u : Nat} (hi : (finite s u).IsAmount) (h : u ≤ k) :
    u ≤ nearest k :=
  (nearest_of_dvd hi.1).ge.trans (nearest_mono h)

/-- An amount has no sign to count. -/
theorem IsAmount.signed_eq {s : Bool} {u : Nat} (hi : (finite s u).IsAmount) : signed s u = u := by
  rcases s
  · rfl
  · rw [hi.2.2 rfl]
    rfl

/-- What is measured as less than an amount is less than it. -/
theorem below_of_ofUnits_lt (hi : i.IsAmount) (h : (ofUnits z n).lt i = true) : Below n i := by
  rcases i with _ | s | ⟨s, u⟩
  · exact absurd hi id
  · exact hi
  · rw [Below, hi.signed_eq]
    by_contra hn
    obtain ⟨k, rfl⟩ := Int.eq_ofNat_of_zero_le (show 0 ≤ n by omega)
    have hu := hi.le_nearest (show u ≤ k by omega)
    exact absurd ((ofUnits_natCast_lt hi).mp h) (Nat.not_lt_of_le hu)

/-- What is less than an amount, and is not measured as less, is rounded up to the amount itself. -/
theorem ofUnits_of_below (hi : i.IsAmount) (hbelow : Below k i) (h : i.ceiling ≤ nearest k) :
    ofUnits z k = i := by
  have hlimit : 0 < unitsLimit := by decide +kernel
  have hzero : nearest 0 = 0 := rfl
  rcases i with _ | s | ⟨s, u⟩
  · exact absurd hi id
  · obtain rfl : s = false := hi
    rw [ceiling] at h
    have hk : k ≠ 0 := by
      rintro rfl
      omega
    rw [ofUnits_eq, if_neg (by omega), Int.natAbs_natCast, if_neg (by omega),
      decide_eq_false (by omega)]
  · rw [Below, hi.signed_eq] at hbelow
    rw [ceiling] at h
    -- rounding keeps the order, so it neither falls below the amount nor passes it
    have heq : nearest k = u := Nat.le_antisymm (hi.nearest_le (by omega)) h
    have hs : s = false := by
      rcases s
      · rfl
      · have := hi.2.2 rfl
        omega
    have hk : k ≠ 0 := by
      rintro rfl
      omega
    rw [ofUnits_eq, if_neg (by omega), Int.natAbs_natCast, heq, if_pos hi.2.1,
      decide_eq_false (by omega), hs]

/-- **Measured and exact differences.** What is measured as less than an amount is less, and what is
less is measured as less unless it is rounded up to the amount itself. -/
theorem ofUnits_lt_iff (hi : i.IsAmount) :
    (ofUnits z n).lt i = true ↔ Below n i ∧ ofUnits z n ≠ i := by
  constructor
  · intro h
    refine ⟨below_of_ofUnits_lt hi h, ?_⟩
    rintro rfl
    rw [lt_irrefl] at h
    exact absurd h nofun
  · rintro ⟨hbelow, hne⟩
    -- what is negative lies below every amount
    rcases Int.lt_or_le n 0 with hn | hn
    · exact ofUnits_neg_lt hi hn
    · obtain ⟨k, rfl⟩ := Int.eq_ofNat_of_zero_le hn
      rw [ofUnits_natCast_lt hi]
      by_contra h
      exact hne (ofUnits_of_below hi hbelow (Nat.le_of_not_lt h))

end Difference

end CodeCatalog.Binary64
