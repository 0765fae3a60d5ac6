/-
Limits of results, as callers give them.

Nothing checks what a caller gives. A limit is compared with whole numbers, for which a flag counts
as zero or one and what is no number fails; then the engine takes it as a machine word, which a
number with a fraction never is, even where the fraction is zero.
-/
import CodeCatalog.Decimal.Word
import CodeCatalog.Failure

set_option autoImplicit false

namespace CodeCatalog.Search

open Json

/-- A machine word from a whole number. -/
def machineWord (n : Int) : Except Fault Nat :=
  if n < 0 then .error .negativeWord
  else if maxWord < n then .error .wordTooWide
  else .ok n.toNat

namespace Limit

/-- The whole number that a flag counts as. -/
def ofFlag (b : Bool) : Int :=
  if b then 1 else 0

/-- Whether a number is more than a bound; none if it is no number. -/
def exceeds? (bound : Int) : Value → Option Bool
  | .bool b => some (bound < ofFlag b)
  | .int n => some (bound < n)
  | .real x => some (Binary64.lt (.ofInt bound) x)
  | _ => none

/-- A limit that is no more than `most`, made from the one that is given, or else from the default.
A limit that cannot be compared, such as a not-a-number, is left as it is. -/
def clamp (most : Int) (given default : Value) : Except Fault Value :=
  let limit := if given = .null then default else given
  match exceeds? most limit with
  | some true => .ok (.int most)
  | some false => .ok limit
  | none => .error (.notOrdered "<" (.int most) limit)

/-- Whether a limit leaves room for a result: it is not zero or less. -/
def hasRoom (limit : Value) : Except Fault Bool :=
  match exceeds? 0 limit with
  | some b => .ok (b || limit = .real .nan)
  | none => .error (.notOrdered "<=" limit (.int 0))

/-- The number of results that a limit admits. -/
def word : Value → Except Fault Nat
  | .int n => machineWord n
  | .bool b => machineWord (ofFlag b)
  | v => .error (.notCountable "limit" v)

end Limit

end CodeCatalog.Search
