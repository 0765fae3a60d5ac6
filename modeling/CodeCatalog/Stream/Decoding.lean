/-
The text of UTF-8 bytes, decoded block by block.

Bytes that no text begins with are noticed with the block they stand in. A character whose bytes are
not all there yet waits for the next block, and is noticed only where the bytes end.
-/
import CodeCatalog.Text.Line

set_option autoImplicit false

namespace CodeCatalog.Stream

/-- How many bytes are decoded at a time. -/
def blockSize : Nat := 8192

/-- The text of bytes, if they are valid UTF-8. -/
def decode? (bytes : ByteArray) : Option (List Char) :=
  (String.fromUTF8? bytes).map String.toList

/-- Whether a byte continues a character. -/
def isTail (b : UInt8) : Bool :=
  0x80 ≤ b && b ≤ 0xBF

/-- Whether a byte can stand second in a character, behind its first. -/
def isSecond (first second : UInt8) : Bool :=
  isTail second &&
    if first = 0xE0 then 0xA0 ≤ second
    else if first = 0xED then second ≤ 0x9F
    else if first = 0xF0 then 0x90 ≤ second
    else if first = 0xF4 then second ≤ 0x8F
    else true

/-- Whether bytes begin a character and do not end it. -/
def isBegun : List UInt8 → Bool
  | [a] => 0xC2 ≤ a && a ≤ 0xF4
  | [a, b] => 0xE0 ≤ a && a ≤ 0xF4 && isSecond a b
  | [a, b, c] => 0xF0 ≤ a && a ≤ 0xF4 && isSecond a b && isTail c
  | _ => false

/-- The text of bytes whose last `n` begin a character. -/
def decodeBut? (bytes : ByteArray) (n : Nat) : Option (List Char) :=
  let cut := bytes.size - n
  if n = 0 ∨ isBegun (bytes.extract cut bytes.size).toList then decode? (bytes.extract 0 cut)
  else none

/-- The text of bytes of which the last may begin a character. -/
def decodeBegun? (bytes : ByteArray) : Option (List Char) :=
  (List.range 4).findSome? (decodeBut? bytes)

/-- The text of the blocks before the first one in which something is wrong. -/
def validBlocks (bytes : ByteArray) : (blocks : Nat) → List Char
  | 0 => []
  | blocks + 1 =>
    match decodeBegun? (bytes.extract 0 ((blocks + 1) * blockSize)) with
    | some text => text
    | none => validBlocks bytes blocks

/-- The text that is decoded before bytes are found not to be valid UTF-8. -/
def validStart (bytes : ByteArray) : List Char :=
  validBlocks bytes (bytes.size / blockSize + 1)

/-- The text up to a carriage return at its end: whether that ends a line alone or with a newline
is not known before the next character. -/
def settled (text : List Char) : List Char :=
  if text.getLast? = some '\r' then text.dropLast else text

/-- The lines that end in a text that goes on. -/
def endedLines (text : List Char) : List (List Char) :=
  (Text.lines (settled text)).filter (·.getLast? = some '\n')

end CodeCatalog.Stream
