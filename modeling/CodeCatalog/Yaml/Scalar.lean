/-
The texts of scalars: plain words, quoted texts, and literal or folded blocks.

A break inside a plain or quoted text counts as a space unless empty lines follow it, and then as
those. Each reader starts at a cursor and tells the text with the place behind it. The readers call
themselves once for each character at most, so the length of what is left bounds them.
-/
import CodeCatalog.Yaml.Cursor
import CodeCatalog.Json.Reader

set_option autoImplicit false

namespace CodeCatalog.Yaml

/-- A break and the empty lines behind it, folded. -/
def foldBreaks (first breaks : List Char) : List Char :=
  (if first ≠ ['\n'] then first else if breaks.isEmpty then [' '] else []) ++ breaks

/-! ## Plain text -/

/-- Whether a plain text ends at a place: at a blank, at a colon before a blank, and inside brackets
at a comma, a question mark, a bracket, or a colon before one. -/
def endsPlain (inFlow : Bool) (c : Char) (after : Char) : Bool :=
  let flowMarks := [',', '[', ']', '{', '}']
  endsWord c || (c = ':' && (endsWord after || (inFlow && flowMarks.contains after))) ||
    (inFlow && ('?' :: flowMarks).contains c)

/-- The characters of a plain text up to the next blank or mark. -/
def plainRun (inFlow : Bool) : List Char → List Char
  | [] => []
  | c :: rest => if endsPlain inFlow c (rest.headD endMark) then [] else c :: plainRun inFlow rest

/-- The breaks of the empty lines that follow, or nothing if an edge of the document follows one. -/
def plainBreaks : (fuel : Nat) → Cursor → Option (List Char × Cursor)
  | 0, c => some ([], c)
  | fuel + 1, c =>
    if c.peek = ' ' then plainBreaks fuel c.next
    else if isBreak c.peek then
      let (text, c) := c.takeBreak
      if c.isDocumentEdge then none
      else (plainBreaks fuel c).map fun (more, c) => (text ++ more, c)
    else some ([], c)

/-- What stands between two words of a plain text. -/
structure Gap where
  /-- What the gap counts as, or nothing if the plain text cannot go on. -/
  text : List Char
  isBroken : Bool
  after : Cursor

/-- The gap that follows. -/
def plainGap (c : Cursor) : Gap :=
  let spaces := c.run (· = ' ')
  let c := c.skip spaces.length
  if isBreak c.peek then
    let (first, c) := c.takeBreak
    if c.isDocumentEdge then ⟨[], true, c⟩
    else match plainBreaks c.steps c with
      | none => ⟨[], true, c.skipRun fun ch => ch = ' ' || isBreak ch⟩
      | some (breaks, c) => ⟨foldBreaks first breaks, true, c⟩
  else ⟨spaces, false, c⟩

/-- A text that was read, whether it went over a break, and the place behind it. -/
structure Reading where
  text : List Char
  isBroken : Bool := false
  after : Cursor

/-- The rest of a plain text, whose last gap was `gap`. -/
def plainRest (inFlow : Bool) (indent : Nat) (gap : List Char) (isBroken : Bool) :
    (fuel : Nat) → Cursor → Reading
  | 0, c => ⟨[], isBroken, c⟩
  | fuel + 1, c =>
    let word := if c.peek = '#' then [] else plainRun inFlow c.rest
    if word.isEmpty then ⟨[], isBroken, c⟩
    else
      let next := plainGap (c.skip word.length)
      let text := gap ++ word
      if next.text.isEmpty || next.after.peek = '#' || (!inFlow && next.after.column < indent) then
        ⟨text, next.isBroken, next.after⟩
      else
        let more := plainRest inFlow indent next.text next.isBroken fuel next.after
        { more with text := text ++ more.text }

/-- A plain text. Its lines after the first must stand further right than the block around it. -/
def readPlain (inFlow : Bool) (indent : Nat) (c : Cursor) : Reading :=
  plainRest inFlow indent [] false c.steps c

/-! ## Quoted text -/

/-- The letters of escapes with the characters that they stand for. -/
def escapeLetters : List (Char × Char) := [
  ('0', Char.ofNat 0), ('a', Char.ofNat 7), ('b', Char.ofNat 8), ('t', '\t'), ('\t', '\t'),
  ('n', '\n'), ('v', Char.ofNat 0xB), ('f', Char.ofNat 0xC), ('r', '\r'), ('e', Char.ofNat 0x1B),
  (' ', ' '), ('"', '"'), ('\\', '\\'), ('/', '/'), ('N', Char.ofNat 0x85), ('_', Char.ofNat 0xA0),
  ('L', Char.ofNat 0x2028), ('P', Char.ofNat 0x2029)]

/-- The letters of numeric escapes with the count of their digits. -/
def escapeWidths : List (Char × Nat) := [('x', 2), ('u', 4), ('U', 8)]

/-- The number that hexadecimal digits write. -/
def hexNumber? (ds : List Char) : Option Nat :=
  (ds.mapM Json.hexValue?).map (·.foldl (fun n d => 16 * n + d) 0)

/-- The character of a numeric escape with some digits. -/
def numericEscape (width : Nat) (c : Cursor) : Except Error (Char × Cursor) :=
  let digits := c.rest.take width
  match if digits.length = width then hexNumber? digits else none with
  | none => .error (.malformed .badEscape)
  | some n =>
    if n ≥ 0x110000 then
      .error (if c.readable < c.index + width then .unread else .fault .noCharacter)
    else .ok (Json.unitChar n, c.skip width)

/-- The breaks of empty lines inside quotes. An edge of the document must not stand among them. -/
def quotedBreaks : (fuel : Nat) → Cursor → Except Error (List Char × Cursor)
  | 0, c => .ok ([], c)
  | fuel + 1, c =>
    if c.isDocumentEdge then .error (.malformed .openQuote)
    else
      let c := c.skipRun fun ch => ch = ' ' || ch = '\t'
      if isBreak c.peek then do
        let (text, c) := c.takeBreak
        let (more, c) ← quotedBreaks fuel c
        return (text ++ more, c)
      else .ok ([], c)

/-- What an escape stands for; the cursor is behind the backslash. A break that is escaped joins its
line to the next one. -/
def escaped (c : Cursor) : Except Error (List Char × Cursor) :=
  let letter := c.peek
  match escapeLetters.lookup letter, escapeWidths.lookup letter with
  | some ch, _ => .ok ([ch], c.next)
  | none, some width => do
    let (ch, c) ← numericEscape width c.next
    return ([ch], c)
  | none, none =>
    if isBreak letter then
      let c := c.takeBreak.2
      quotedBreaks c.steps c
    else .error (.malformed .badEscape)

/-- The blanks inside quotes: themselves, or a folded break if one is among them. -/
def quotedBlanks (c : Cursor) : Except Error (List Char × Cursor) :=
  let blanks := c.run fun ch => ch = ' ' || ch = '\t'
  let c := c.skip blanks.length
  if c.peek = endMark then .error (.malformed .openQuote)
  else if isBreak c.peek then do
    let (first, c) := c.takeBreak
    let (breaks, c) ← quotedBreaks c.steps c
    return (foldBreaks first breaks, c)
  else .ok (blanks, c)

/-- The rest of a text between quotes, behind the opening one. -/
def quotedRest (quote : Char) : (fuel : Nat) → Cursor → Except Error (List Char × Cursor)
  | 0, _ => .error (.malformed .openQuote)
  | fuel + 1, c => do
    let ch := c.peek
    if ch = quote then
      if quote = '\'' && c.ahead 1 = quote then
        let (more, c) ← quotedRest quote fuel (c.skip 2)
        return (quote :: more, c)
      else return ([], c.next)
    else if quote = '"' && ch = '\\' then
      let (text, c) ← escaped c.next
      let (more, c) ← quotedRest quote fuel c
      return (text ++ more, c)
    else if endsWord ch then
      let (text, c) ← quotedBlanks c
      let (more, c) ← quotedRest quote fuel c
      return (text ++ more, c)
    else
      let (more, c) ← quotedRest quote fuel c.next
      return (ch :: more, c)

/-- A text between quotes. -/
def readQuoted (c : Cursor) : Except Error Reading := do
  let (text, after) ← quotedRest c.peek c.steps c.next
  return { text, after }

/-! ## Blocks -/

/-- What is kept of the breaks at the end of a block. -/
inductive Chomping
  | strip
  | clip
  | keep
  deriving DecidableEq

/-- The chomping that a sign stands for. -/
def chomping? (c : Char) : Option Chomping :=
  if c = '+' then some .keep else if c = '-' then some .strip else none

/-- The indentation that a digit stands for. -/
def indentation? (c : Char) : Option Nat :=
  if c.isDigit then some (c.toNat - 48) else none

/-- The signs behind the mark of a block: how it is chomped and how far it is indented. -/
def blockSigns (c : Cursor) : Except Error (Chomping × Option Nat × Cursor) :=
  let first := c.peek
  let (chomping, indentation, c) := match chomping? first, indentation? first with
    | some sign, _ => match indentation? (c.ahead 1) with
      | some n => (sign, some n, c.skip 2)
      | none => (sign, none, c.next)
    | none, some n => match chomping? (c.ahead 1) with
      | some sign => (sign, some n, c.skip 2)
      | none => (.clip, some n, c.next)
    | none, none => (.clip, none, c)
  if indentation = some 0 || !endsName c.peek then .error (.malformed .badBlock)
  else .ok (chomping, indentation, c)

/-- The empty lines at the start of a block, with the widest indentation among them and the first
line that is not empty. -/
def blockStart (widest : Nat) : (fuel : Nat) → Cursor → List Char × Nat × Cursor
  | 0, c => ([], widest, c)
  | fuel + 1, c =>
    if c.peek = ' ' then blockStart (max widest c.next.column) fuel c.next
    else if isBreak c.peek then
      let (text, c) := c.takeBreak
      let (more, widest, c) := blockStart widest fuel c
      (text ++ more, widest, c)
    else ([], widest, c)

/-- The place behind the spaces of an indentation. -/
def skipIndent (indent : Nat) (c : Cursor) : Cursor :=
  c.skip (min (indent - c.column) (c.run (· = ' ')).length)

/-- The empty lines inside a block. -/
def blockBreaks (indent : Nat) : (fuel : Nat) → Cursor → List Char × Cursor
  | 0, c => ([], c)
  | fuel + 1, c =>
    let c := skipIndent indent c
    if isBreak c.peek then
      let (text, c) := c.takeBreak
      let (more, c) := blockBreaks indent fuel c
      (text ++ more, c)
    else ([], c)

/-- A line between two others of a folded block that begins with no blank. -/
def isFlush (c : Char) : Bool :=
  c ≠ ' ' && c ≠ '\t'

/-- The lines of a block. `before` are the empty lines in front of the next one. -/
def blockLines (folded : Bool) (indent : Nat) (chomping : Chomping) :
    (fuel : Nat) → (before : List Char) → (lastBreak : List Char) → Cursor → List Char × Cursor
  | 0, _, _, c => ([], c)
  | fuel + 1, before, lastBreak, c =>
    if c.column = indent && c.peek ≠ endMark then
      let flush := isFlush c.peek
      let line := c.run (!endsLine ·)
      let (first, c) := (c.skip line.length).takeBreak
      let (breaks, c) := blockBreaks indent c.steps c
      let goesOn := c.column = indent && c.peek ≠ endMark
      let joint :=
        if !goesOn then []
        else if folded && first = ['\n'] && flush && isFlush c.peek then
          if breaks.isEmpty then [' '] else []
        else first
      let (more, c) := blockLines folded indent chomping fuel breaks first c
      (before ++ line ++ joint ++ more, c)
    else
      let tail := match chomping with
        | .strip => []
        | .clip => lastBreak
        | .keep => lastBreak ++ before
      (tail, c)

/-- A block, literal or folded. Without an indentation of its own it takes that of its first line
that is not empty. -/
def readBlock (folded : Bool) (indent : Int) (c : Cursor) : Except Error Reading := do
  let (chomping, indentation, c) ← blockSigns c.next
  let c ← c.endLine .badBlock
  let least := (max (indent + 1) 1).toNat
  let (before, width, c) := match indentation with
    | some n =>
      let width := least + n - 1
      let (before, c) := blockBreaks width c.steps c
      (before, width, c)
    | none =>
      let (before, widest, c) := blockStart 0 c.steps c
      (before, max least widest, c)
  let (text, after) := blockLines folded width chomping c.steps before [] c
  return { text, after }

end CodeCatalog.Yaml
