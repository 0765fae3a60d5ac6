/-
Decimal digits of all scripts, and whole numbers written with them.

A whole number is read between blanks, with an optional sign, from digits of any script; a single
low line may stand between two digits. Texts of more than `maxWholeDigits` digits are refused,
because reading them takes time that grows with the square of their length.
-/
import CodeCatalog.Text.Blank

set_option autoImplicit false

namespace CodeCatalog.Text

/-- The zero of each script's ten consecutive decimal digits. -/
def digitZeros : List Nat := [
  0x30, 0x660, 0x6F0, 0x7C0, 0x966, 0x9E6, 0xA66, 0xAE6, 0xB66, 0xBE6, 0xC66, 0xCE6, 0xD66, 0xDE6,
  0xE50, 0xED0, 0xF20, 0x1040, 0x1090, 0x17E0, 0x1810, 0x1946, 0x19D0, 0x1A80, 0x1A90, 0x1B50,
  0x1BB0, 0x1C40, 0x1C50, 0xA620, 0xA8D0, 0xA900, 0xA9D0, 0xA9F0, 0xAA50, 0xABF0, 0xFF10, 0x104A0,
  0x10D30, 0x11066, 0x110F0, 0x11136, 0x111D0, 0x112F0, 0x11450, 0x114D0, 0x11650, 0x116C0,
  0x11730, 0x118E0, 0x11950, 0x11C50, 0x11D50, 0x11DA0, 0x16A60, 0x16AC0, 0x16B50, 0x1D7CE,
  0x1D7D8, 0x1D7E2, 0x1D7EC, 0x1D7F6, 0x1E140, 0x1E2F0, 0x1E950, 0x1FBF0]

/-- The value of a decimal digit of any script. -/
def digit? (c : Char) : Option Nat :=
  (digitZeros.find? fun z => z ≤ c.toNat ∧ c.toNat < z + 10).map (c.toNat - ·)

/-- The most digits that a whole number may be written with. -/
def maxWholeDigits : Nat := 4300

/-- Why a text is no whole number. -/
inductive WholeError
  /-- The text does not have the form of a whole number. -/
  | malformed
  /-- The text has this many digits, more than `maxWholeDigits`. -/
  | tooLong (digits : Nat)
  deriving Repr, DecidableEq

/-- The value of digits that are read after `value`. -/
def digitsValue (value : Nat) (ds : List Nat) : Nat :=
  ds.foldl (fun v d => 10 * v + d) value

/-- The digits that a text begins with, and the rest of the text. A single low line may stand
between two digits. `after` tells whether a digit has just been read, which a low line and the end
of the digits require. -/
def spacedDigits? (digit : Char → Option Nat) : (after : Bool) → List Char →
    Option (List Nat × List Char)
  | after, [] => if after then some ([], []) else none
  | after, c :: rest =>
    if c = '_' then
      if after then spacedDigits? digit false rest else none
    else match digit c with
      | some d => (spacedDigits? digit true rest).map fun (ds, more) => (d :: ds, more)
      | none => if after then some ([], c :: rest) else none

/-- A text without its sign, and whether the sign is a minus. -/
def splitSign : List Char → Bool × List Char
  | '-' :: rest => (true, rest)
  | '+' :: rest => (false, rest)
  | cs => (false, cs)

/-- Whether the character may stand around a whole number: the blanks but for the four separators.
-/
def isNumberBlank (c : Char) : Bool :=
  isBlank c && !(0x1C ≤ c.toNat && c.toNat ≤ 0x1F)

/-- The whole number that a text writes. Too many digits are noticed before what follows them. -/
def readWhole (s : String) : Except WholeError Int :=
  let (negative, body) := splitSign (trimBy isNumberBlank s.toList)
  match spacedDigits? digit? false body with
  | none => .error .malformed
  | some (ds, rest) =>
    if ds.length > maxWholeDigits then .error (.tooLong ds.length)
    else if rest.isEmpty then
      let n := digitsValue 0 ds
      .ok (if negative then -(n : Int) else n)
    else .error .malformed

end CodeCatalog.Text
