/-
The shortest decimal text of a binary floating-point number.

The digits are the fewest that still read back as the same value, and of those the nearest to it; an
exact tie goes to the even last digit. They are written positionally from `0.0001` up to but not
including `10 ^ 16`, and otherwise with an exponent of at least two digits behind its sign.
-/
import CodeCatalog.Decimal.Binary64

set_option autoImplicit false

namespace CodeCatalog.Binary64

/-- Four times the least and the greatest number of units that round to `units`, and whether these
two themselves do. Below a power of two the values lie twice as close. -/
def roundingRange (units : Nat) : Nat × Nat × Bool :=
  let step := quantum units
  let below := if Nat.pow 2 53 ≤ units ∧ units = Nat.pow 2 units.log2 then step else 2 * step
  (4 * units - below, 4 * units + 2 * step, (units / step) % 2 = 0)

/-- Whether `digit · num / den` units round to `units`. -/
def readsBack (units digit num den : Nat) : Bool :=
  let (lo, hi, closed) := roundingRange units
  let x := 4 * digit * num
  if closed then lo * den ≤ x ∧ x ≤ hi * den else lo * den < x ∧ x < hi * den

/-- Ten to an integer power as a quotient, in units. -/
def tenPower (exponent : Int) : Nat × Nat :=
  if exponent ≥ 0 then (Nat.pow 10 exponent.toNat * unitsPerOne, 1)
  else (unitsPerOne, Nat.pow 10 (-exponent).toNat)

/-- The neighbour of the value on the grid of `10 ^ exponent` that reads back and is nearer. -/
def gridDigits? (units : Nat) (exponent : Int) : Option Nat :=
  let (num, den) := tenPower exponent
  let below := units * den / num
  let rest := units * den % num
  match readsBack units below num den, readsBack units (below + 1) num den with
  | true, true =>
    if 2 * rest < num then some below
    else if num < 2 * rest then some (below + 1)
    else some (if below % 2 = 0 then below else below + 1)
  | true, false => some below
  | false, true => some (below + 1)
  | false, false => none

/-- The grids from the coarsest at `exponent`, each ten times finer than the one before. -/
def firstGrid (units : Nat) : (grids : Nat) → (exponent : Int) → Nat × Int
  | 0, exponent => (0, exponent)
  | grids + 1, exponent =>
    match gridDigits? units exponent with
    | some d => (d, exponent)
    | none => firstGrid units grids (exponent - 1)

/-- The exponent `p` with `10 ^ p ≤ units < 10 ^ (p + 1)`, counted down from a bound above it. -/
def leadingExponent (units : Nat) : (tries : Nat) → (exponent : Int) → Int
  | 0, exponent => exponent
  | tries + 1, exponent =>
    let (num, den) := tenPower exponent
    if num ≤ units * den then exponent else leadingExponent units tries (exponent - 1)

/-- Digits without their trailing zeros, and the exponent of the last one that stays. -/
def dropZeros : (limit : Nat) → Nat → Int → Nat × Int
  | 0, d, e => (d, e)
  | limit + 1, d, e => if d % 10 = 0 ∧ d ≠ 0 then dropZeros limit (d / 10) (e + 1) else (d, e)

/-- The shortest digits of a positive number of units, and the power of ten of the last one. -/
def shortestDigits (units : Nat) : Nat × Int :=
  let guess : Int := ((units.log2 : Int) - 1074) * 30103 / 100000 + 1
  let top := leadingExponent units 4 guess
  let (d, e) := firstGrid units 18 top
  dropZeros 20 d e

/-- Which values are written without an exponent: those whose first digit stands for `10 ^ p` with
`least ≤ p < limit`. -/
structure Positional where
  least : Int
  limit : Int
  deriving Repr, DecidableEq

/-- Values from `0.0001` up to `10 ^ 16` are written without an exponent. -/
def plainRange : Positional := ⟨-4, 16⟩

/-- The text of an exponent: its sign and at least two digits. -/
def exponentText (e : Int) : String :=
  let n := toString e.natAbs
  (if e < 0 then "e-" else "e+") ++ (if e.natAbs < 10 then "0" ++ n else n)

/-- The text of the digits `d` whose last one stands for `10 ^ e`. -/
def decimalText (d : Nat) (e : Int) : String :=
  let digits := toString d
  let first : Int := e + digits.length - 1
  if plainRange.least ≤ first ∧ first < plainRange.limit then
    if e ≥ 0 then
      digits ++ String.ofList (List.replicate e.toNat '0') ++ ".0"
    else if first ≥ 0 then
      let cut := (first + 1).toNat
      String.ofList (digits.toList.take cut ++ '.' :: digits.toList.drop cut)
    else
      "0." ++ String.ofList (List.replicate (-first - 1).toNat '0') ++ digits
  else
    match digits.toList with
    | [c] => String.ofList [c] ++ exponentText first
    | c :: rest => String.ofList (c :: '.' :: rest) ++ exponentText first
    | [] => ""

/-- The shortest text that reads back as the value. -/
def toText : Binary64 → String
  | nan => "nan"
  | infinite s => if s then "-inf" else "inf"
  | finite s u =>
    let body := if u = 0 then "0.0" else
      let (d, e) := shortestDigits u
      decimalText d e
    if s then "-" ++ body else body

end CodeCatalog.Binary64
