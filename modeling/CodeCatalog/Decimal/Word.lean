/-
Machine words of 64 bits: the bounds of those with a sign and of those without.
-/

set_option autoImplicit false

namespace CodeCatalog

/-- The least whole number that a signed machine word holds. -/
def minLong : Int := -9223372036854775808

/-- The greatest whole number that a signed machine word holds. -/
def maxLong : Int := 9223372036854775807

/-- The greatest whole number that an unsigned machine word holds. -/
def maxWord : Int := 18446744073709551615

/-- Whether a number fits a signed machine word. -/
def fitsLong (n : Int) : Bool :=
  minLong ≤ n ∧ n ≤ maxLong

end CodeCatalog
