/-
Lines of a text. A newline, a carriage return, and the two together each end a line; nothing else
does.
-/
import CodeCatalog.Text.Cut

set_option autoImplicit false

namespace CodeCatalog.Text

/-- A character with each line end written as one newline: a newline behind a carriage return is
dropped, because the return has become one. -/
def unifiedAfter (before c : Char) : List Char :=
  if c = '\n' ∧ before = '\r' then [] else if c = '\r' then ['\n'] else [c]

/-- The text with each line end written as one newline. -/
def unifyLineEnds (text : List Char) : List Char :=
  (List.zipWith unifiedAfter ('\n' :: text) text).flatten

/-- Put a character in front of lines: a newline is a line of its own, anything else joins the first
line. -/
def consLine (c : Char) (lines : List (List Char)) : List (List Char) :=
  if c = '\n' then ['\n'] :: lines
  else match lines with
    | [] => [[c]]
    | line :: lines => (c :: line) :: lines

/-- The text cut after each newline. A last line without a newline is kept if it is not empty. -/
def cutAfterNewlines (text : List Char) : List (List Char) :=
  text.foldr consLine []

/-- The lines of a text, each with its end, which is written as a newline. -/
def lines (text : List Char) : List (List Char) :=
  cutAfterNewlines (unifyLineEnds text)

/-! ## All line ends -/

/-- The codes of the characters that end a line for a reader. -/
def lineEndCodes : List Nat := [0xA, 0xB, 0xC, 0xD, 0x1C, 0x1D, 0x1E, 0x85, 0x2028, 0x2029]

/-- The lines of a text as a reader sees them, without their ends; a carriage return and a newline
are one end. -/
def splitLines (s : String) : List String :=
  let pieces := cutAt (fun c => lineEndCodes.contains c.toNat) (s.replace "\r\n" "\n").toList
  (if pieces.getLast? = some [] then pieces.dropLast else pieces).map String.ofList

end CodeCatalog.Text
