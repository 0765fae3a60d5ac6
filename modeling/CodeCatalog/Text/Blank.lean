/-
Blank characters: the white space of the character standard together with the four separators
`U+001C` to `U+001F`.
-/
import CodeCatalog.Text.RangeTable

set_option autoImplicit false

namespace CodeCatalog.Text

/-- Blank characters. -/
def blanks : RangeTable := ⟨[(0x9, 0xD), (0x1C, 0x20), (0x85, 0x85), (0xA0, 0xA0), (0x1680, 0x1680),
  (0x2000, 0x200A), (0x2028, 0x2029), (0x202F, 0x202F), (0x205F, 0x205F), (0x3000, 0x3000)]⟩

/-- Whether the character is blank. -/
def isBlank (c : Char) : Bool :=
  blanks.contains c

/-- The text without the characters of class `p` at its two ends. -/
def trimBy (p : Char → Bool) (cs : List Char) : List Char :=
  ((cs.dropWhile p).reverse.dropWhile p).reverse

/-- The text without the blanks at its two ends. -/
def strip (cs : List Char) : List Char :=
  trimBy isBlank cs

end CodeCatalog.Text
