/-
Quoted text: a text between quotes with every character that cannot be shown written by its number.

The quote is the single one unless the text holds a single and no double quote. The quote that is
used and the backslash are written behind a backslash, the tab and the two line ends by their
letters, and any other character that is not printable as `\x`, `\u` or `\U` with two, four or
eight hexadecimal digits.
-/
import CodeCatalog.Text.PrintableTable

set_option autoImplicit false

namespace CodeCatalog.Text

/-- The character of a hexadecimal digit, in lower case. -/
def hexDigit (n : Nat) : Char :=
  if n < 10 then Char.ofNat (48 + n) else Char.ofNat (87 + n)

/-- The last `width` hexadecimal digits of `n`. -/
def hexDigits : Nat → Nat → List Char
  | 0, _ => []
  | width + 1, n => hexDigits width (n / 16) ++ [hexDigit (n % 16)]

/-- A character inside quotes. -/
def quotedChar (quote : Char) (c : Char) : List Char :=
  let n := c.toNat
  if c = quote ∨ c = '\\' then ['\\', c]
  else if c = '\t' then ['\\', 't']
  else if c = '\n' then ['\\', 'n']
  else if c = '\r' then ['\\', 'r']
  else if printable.contains c then [c]
  else if n ≤ 0xFF then '\\' :: 'x' :: hexDigits 2 n
  else if n ≤ 0xFFFF then '\\' :: 'u' :: hexDigits 4 n
  else '\\' :: 'U' :: hexDigits 8 n

/-- The quote that a text is put between. -/
def quoteFor (s : String) : Char :=
  if s.toList.contains '\'' && !s.toList.contains '"' then '"' else '\''

/-- The text between quotes. -/
def quoted (s : String) : String :=
  let q := quoteFor s
  String.ofList (q :: (s.toList.flatMap (quotedChar q) ++ [q]))

end CodeCatalog.Text
