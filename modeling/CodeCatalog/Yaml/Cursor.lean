/-
A place in a YAML text, with the classes of characters that the text is read by.

Behind the end of the text stands an end mark, the character with the number zero, which a text
itself cannot hold.
-/
import CodeCatalog.Text.Line
import CodeCatalog.Failure

set_option autoImplicit false

namespace CodeCatalog.Yaml

/-- Why a text is no YAML document. -/
inductive Malformed
  | unprintable (c : Char)
  | badStart (c : Char)
  | entryOutOfPlace
  | keyOutOfPlace
  | valueOutOfPlace
  | valueMissing
  | badDirective
  | badAnchor
  | badTag
  | badBlock
  | openQuote
  | badEscape
  | documentStartMissing
  | secondDocument
  | blockNotEnded
  | flowNotEnded
  | contentMissing
  | unknownHandle (handle : String)
  | unknownAnchor (name : String)
  | repeatedAnchor (name : String)
  | unknownTag
  | wrongTag
  | badMerge
  | badKey
  | badBinary
  deriving Repr, DecidableEq

namespace Malformed

/-- The reason in words. -/
def message : Malformed → String
  | unprintable c => "unacceptable character #x" ++ String.ofList (Text.hexDigits 4 c.toNat)
  | badStart c =>
    "found character " ++ Text.quoted (String.singleton c) ++ " that cannot start any token"
  | entryOutOfPlace => "sequence entries are not allowed here"
  | keyOutOfPlace => "mapping keys are not allowed here"
  | valueOutOfPlace => "mapping values are not allowed here"
  | valueMissing => "could not find expected ':'"
  | badDirective => "while scanning a directive"
  | badAnchor => "while scanning an anchor or an alias"
  | badTag => "while scanning a tag"
  | badBlock => "while scanning a block scalar"
  | openQuote => "found unexpected end of stream"
  | badEscape => "found unknown escape character"
  | documentStartMissing => "expected '<document start>'"
  | secondDocument => "expected a single document in the stream"
  | blockNotEnded => "expected <block end>"
  | flowNotEnded => "expected ',' or the end of the collection"
  | contentMissing => "expected the node content"
  | unknownHandle h => "found undefined tag handle " ++ Text.quoted h
  | unknownAnchor name => "found undefined alias " ++ Text.quoted name
  | repeatedAnchor name => "found duplicate anchor " ++ Text.quoted name
  | unknownTag => "could not determine a constructor for the tag"
  | wrongTag => "expected a node of another kind"
  | badMerge => "expected a mapping or list of mappings for merging"
  | badKey => "found unhashable key"
  | badBinary => "failed to decode base64 data"

end Malformed

/-- Why reading ends: the text is malformed, or a value in it cannot be formed. -/
inductive Error
  | malformed (reason : Malformed)
  | fault (fault : Fault)
  /-- The text cannot be read as far as a place that was looked at. -/
  | unread
  deriving Repr, DecidableEq

/-! ## Classes of characters -/

/-- The end mark. -/
def endMark : Char := Char.ofNat 0

/-- The breaks between lines. -/
def isBreak (c : Char) : Bool :=
  c = '\n' || c.toNat = 0x85 || c.toNat = 0x2028 || c.toNat = 0x2029

/-- A break or the end. -/
def endsLine (c : Char) : Bool :=
  isBreak c || c = endMark

/-- A space, a break or the end. -/
def endsName (c : Char) : Bool :=
  c = ' ' || endsLine c

/-- A space, a tab, a break or the end. -/
def endsWord (c : Char) : Bool :=
  c = '\t' || endsName c

/-- Letters, digits, the hyphen and the low line, which names are made of. -/
def isNameChar (c : Char) : Bool :=
  c.isAlphanum || c = '-' || c = '_'

/-- The characters that a text may hold. -/
def isPrintable (c : Char) : Bool :=
  let n := c.toNat
  n = 0x9 || n = 0xA || n = 0xD || (0x20 ≤ n && n ≤ 0x7E) || n = 0x85 || (0xA0 ≤ n && n ≤ 0xD7FF) ||
    (0xE000 ≤ n && n ≤ 0xFFFD) || 0x10000 ≤ n

/-- The byte order mark. -/
def orderMark : Char := Char.ofNat 0xFEFF

/-! ## Cursors -/

/-- A place in a text: what follows it, how many characters and lines stand before it, and how many
characters of its line. -/
structure Cursor where
  rest : List Char
  index : Nat := 0
  line : Nat := 0
  column : Nat := 0
  /-- How many characters the text has. -/
  size : Nat
  /-- How many of its characters can be read. -/
  readable : Nat

namespace Cursor

/-- The character some places ahead. -/
def ahead (c : Cursor) (places : Nat) : Char :=
  (c.rest.drop places).headD endMark

/-- The next character. -/
def peek (c : Cursor) : Char :=
  c.rest.headD endMark

/-- A number of steps that leads over every character that is left. -/
def steps (c : Cursor) : Nat :=
  c.size - c.index + 1

/-- The place behind the next character. -/
def next (c : Cursor) : Cursor :=
  match c.rest with
  | [] => c
  | ch :: rest =>
    if isBreak ch then { c with rest, index := c.index + 1, line := c.line + 1, column := 0 }
    else
      let width := if ch = orderMark then 0 else 1
      { c with rest, index := c.index + 1, column := c.column + width }

/-- The place some characters ahead. -/
def skip (c : Cursor) : Nat → Cursor
  | 0 => c
  | n + 1 => c.next.skip n

/-- The characters of a class that follow. -/
def run (c : Cursor) (p : Char → Bool) : List Char :=
  c.rest.takeWhile p

/-- The place behind the characters of a class. -/
def skipRun (c : Cursor) (p : Char → Bool) : Cursor :=
  c.skip (c.run p).length

/-- The break that follows, if one does, as it counts in a text, and the place behind it. -/
def takeBreak (c : Cursor) : List Char × Cursor :=
  let ch := c.peek
  if ch = '\n' || ch.toNat = 0x85 then (['\n'], c.next)
  else if isBreak ch then ([ch], c.next)
  else ([], c)

/-- Whether three equal hyphens or dots stand here as a word of their own, which end a document. -/
def isMarker (c : Cursor) (mark : Char) : Bool :=
  c.rest.take 3 = [mark, mark, mark] && endsWord (c.ahead 3)

/-- Whether the start or the end of a document stands here. -/
def isDocumentEdge (c : Cursor) : Bool :=
  c.isMarker '-' || c.isMarker '.'

/-- The place at the end of the line. -/
def skipLine (c : Cursor) : Cursor :=
  c.skipRun (!endsLine ·)

/-- The place behind a comment, if one follows. -/
def skipComment (c : Cursor) : Cursor :=
  if c.peek = '#' then c.skipLine else c

/-- The place behind the rest of a line that holds nothing but blanks and a comment, and its break.
-/
def endLine (c : Cursor) (otherwise : Malformed) : Except Error Cursor :=
  let c := (c.skipRun (· = ' ')).skipComment
  if endsLine c.peek then .ok c.takeBreak.2 else .error (.malformed otherwise)

end Cursor

end CodeCatalog.Yaml
