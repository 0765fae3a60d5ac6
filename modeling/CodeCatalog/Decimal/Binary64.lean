/-
Binary floating-point numbers of 64 bits.

Every finite value is a whole number of units of `2 ^ (-1074)`, so a value is stored as its sign and
that number. Sums, products and quotients are first formed exactly and then rounded once, to the
nearest value, and to the one with the even significand when two are equally near.
-/

set_option autoImplicit false

namespace CodeCatalog

/-- A binary floating-point number; all not-a-numbers are one. -/
inductive Binary64
  | nan
  | infinite (negative : Bool)
  /-- The number of units of `2 ^ (-1074)`, with a sign that zero has too. -/
  | finite (negative : Bool) (units : Nat)
  deriving Repr, DecidableEq, Inhabited

namespace Binary64

/-- How many units make one. -/
def unitsPerOne : Nat := Nat.pow 2 1074

/-- The least number of units that is too large for a finite value. -/
def unitsLimit : Nat := Nat.pow 2 2098

/-- The distance between neighbouring values at `units`: the last of 53 binary places. -/
def quantum (units : Nat) : Nat :=
  if units < Nat.pow 2 53 then 1 else Nat.pow 2 (units.log2 - 52)

/-- The whole number nearest to `n / d`; of two, the even one. -/
def roundQuotient (n d : Nat) : Nat :=
  let q := n / d
  let r := n % d
  if 2 * r < d then q else if d < 2 * r then q + 1 else if q % 2 = 0 then q else q + 1

/-- The value nearest to `± n / d`. -/
def ofRatio (negative : Bool) (n d : Nat) : Binary64 :=
  let scaled := n * unitsPerOne
  let step := quantum (scaled / d)
  let units := roundQuotient scaled (d * step) * step
  if units < unitsLimit then .finite negative units else .infinite negative

/-- The value nearest to a whole number. -/
def ofInt (n : Int) : Binary64 :=
  ofRatio (n < 0) n.natAbs 1

/-- Positive zero. -/
def zero : Binary64 := .finite false 0

/-- A number of units with a sign. -/
def signed (negative : Bool) (units : Nat) : Int :=
  if negative then -(units : Int) else units

/-- The value with the other sign. -/
def neg : Binary64 → Binary64
  | nan => nan
  | infinite s => infinite (!s)
  | finite s u => finite (!s) u

/-- The value nearest to a whole number of units, with the given sign if it is zero. -/
def ofUnits (zeroSign : Bool) (n : Int) : Binary64 :=
  if n = 0 then .finite zeroSign 0 else ofRatio (n < 0) n.natAbs unitsPerOne

/-- The rounded sum. -/
def add : Binary64 → Binary64 → Binary64
  | nan, _ => nan
  | _, nan => nan
  | infinite s, infinite t => if s = t then infinite s else nan
  | infinite s, finite _ _ => infinite s
  | finite _ _, infinite t => infinite t
  | finite s u, finite t v => ofUnits (s && t) (signed s u + signed t v)

/-- The rounded difference. -/
def sub (x y : Binary64) : Binary64 :=
  x.add y.neg

/-- The rounded product. -/
def mul : Binary64 → Binary64 → Binary64
  | nan, _ => nan
  | _, nan => nan
  | infinite s, infinite t => infinite (s != t)
  | infinite s, finite t v => if v = 0 then nan else infinite (s != t)
  | finite s u, infinite t => if u = 0 then nan else infinite (s != t)
  | finite s u, finite t v => ofRatio (s != t) (u * v) (unitsPerOne * unitsPerOne)

/-- Whether `x` is less than `y`. Nothing is less, or more, than a not-a-number. -/
def lt : Binary64 → Binary64 → Bool
  | nan, _ => false
  | _, nan => false
  | infinite s, infinite t => s && !t
  | infinite s, finite _ _ => s
  | finite _ _, infinite t => !t
  | finite s u, finite t v => signed s u < signed t v

/-- The whole number that a value is, if it is one. -/
def toInt? : Binary64 → Option Int
  | finite s u => if u % unitsPerOne = 0 then some (signed s (u / unitsPerOne)) else none
  | _ => none

/-- Whether the value is a number, neither infinite nor not-a-number. -/
def isFinite : Binary64 → Bool
  | finite _ _ => true
  | _ => false

/-- The value nearest to `± digits · 10 ^ exponent`. Exponents far beyond the range give infinity or
zero without the power being formed. -/
def ofDecimal (negative : Bool) (digits : Nat) (exponent : Int) : Binary64 :=
  let places : Int := (Nat.log2 digits : Int) / 3 + 1
  if digits = 0 then .finite negative 0
  else if exponent > 400 then .infinite negative
  else if exponent + places < -400 then .finite negative 0
  else if exponent ≥ 0 then ofRatio negative (digits * Nat.pow 10 exponent.toNat) 1
  else ofRatio negative digits (Nat.pow 10 (-exponent).toNat)

end Binary64

end CodeCatalog
