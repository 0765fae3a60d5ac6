/-
Bytes written with 64 characters, four characters for three bytes.

Characters that are none of the 64 are passed over. Two or three characters at the end need equals
signs that fill them up to four; the text ends there.
-/
import CodeCatalog.Text.Blank

set_option autoImplicit false

namespace CodeCatalog.Yaml.Base64

/-- The six bits of a character. -/
def sextet? (c : Char) : Option Nat :=
  if 'A' ≤ c ∧ c ≤ 'Z' then some (c.toNat - 65)
  else if 'a' ≤ c ∧ c ≤ 'z' then some (c.toNat - 71)
  else if '0' ≤ c ∧ c ≤ '9' then some (c.toNat + 4)
  else if c = '+' then some 62
  else if c = '/' then some 63
  else none

/-- The bytes of the characters that follow. `held` are the sextets of the group so far, and `signs`
is the count of equals signs behind them. -/
def decodeFrom (held : List Nat) (signs : Nat) : List Char → Option (List UInt8)
  | [] => if held.isEmpty then some [] else none
  | c :: rest =>
    if c = '=' then
      if held.length ≥ 2 ∧ held.length + signs + 1 ≥ 4 then some []
      else decodeFrom held (signs + 1) rest
    else match sextet? c, held with
      | none, _ => decodeFrom held signs rest
      | some v, [] => decodeFrom [v] 0 rest
      | some v, [a] => (decodeFrom [a, v] 0 rest).map (UInt8.ofNat (a * 4 + v / 16) :: ·)
      | some v, [a, b] =>
        (decodeFrom [a, b, v] 0 rest).map (UInt8.ofNat (b % 16 * 16 + v / 4) :: ·)
      | some v, _ :: _ :: c :: _ => (decodeFrom [] 0 rest).map (UInt8.ofNat (c % 4 * 64 + v) :: ·)

/-- The bytes that a text writes. -/
def decode? (s : String) : Option (List UInt8) :=
  if s.toList.all (·.toNat < 128) then decodeFrom [] 0 s.toList else none

end CodeCatalog.Yaml.Base64
