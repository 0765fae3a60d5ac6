/-
Sets of characters given as closed ranges of code points.

The ranges of a table stand in increasing order and do not meet, so a look-up stops at the first
range that begins past the character.
-/

set_option autoImplicit false

namespace CodeCatalog.Text

/-- Closed ranges of code points in increasing order. -/
structure RangeTable where
  ranges : List (Nat × Nat)
  deriving Repr, DecidableEq

/-- Whether `n` lies in one of the ranges, looking no further than the first that begins past it. -/
def inRanges (n : Nat) : List (Nat × Nat) → Bool
  | [] => false
  | (lo, hi) :: rest => if n < lo then false else if n ≤ hi then true else inRanges n rest

/-- Whether the character belongs to the table. -/
def RangeTable.contains (t : RangeTable) (c : Char) : Bool :=
  inRanges c.toNat t.ranges

end CodeCatalog.Text
