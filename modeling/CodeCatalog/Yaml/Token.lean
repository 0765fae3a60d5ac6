/-
The tokens of a YAML text.

Blocks are told by indentation: `indents` are the columns of the open blocks, and a token further
left ends them. A word becomes a key only when a colon follows it, so the places where a key may
have begun are remembered (`Candidate`), one for each depth of brackets; a key must stay on one line
and within 1024 characters. When the colon comes, the key token is put where the candidate began.

Tokens are read as they are asked for, so that what is wrong further on is not noticed before. The
text itself is read in blocks; a character that it may not hold is noticed with its block.
-/
import CodeCatalog.Yaml.Scalar

set_option autoImplicit false

namespace CodeCatalog.Yaml

/-- A token. -/
inductive Token
  | versionDirective (major : Nat)
  | tagDirective (handle lead : String)
  | otherDirective
  | documentStart
  | documentEnd
  | blockSequence
  | blockMapping
  | blockEnd
  | flowSequence
  | flowSequenceEnd
  | flowMapping
  | flowMappingEnd
  | entry
  | comma
  | key
  | value
  | alias (name : String)
  | anchor (name : String)
  /-- A tag: a handle, unless the tag is written out, and what follows it. -/
  | tag (handle : Option String) (suffix : String)
  | scalar (text : String) (plain : Bool)
  deriving Repr, DecidableEq

/-- A place where a key may have begun. -/
structure Candidate where
  /-- How many tokens come before the key. -/
  tokens : Nat
  /-- Whether nothing but a key can stand there. -/
  isRequired : Bool
  index : Nat
  line : Nat
  column : Nat

/-- The tokens read so far and what is needed to go on. -/
structure Scanner where
  place : Cursor
  tokens : Array Token := #[]
  /-- How many brackets are open. -/
  depth : Nat := 0
  indent : Int := -1
  indents : List Int := []
  keyAllowed : Bool := true
  candidates : List (Nat × Candidate) := []
  /-- How many tokens have been made use of. -/
  taken : Nat := 0
  /-- Whether the end of the text has been reached. -/
  isDone : Bool := false

/-- A step of the scanner. -/
abbrev Scan := StateT Scanner (Except Error)

namespace Scan

/-- Fail with a reason. -/
def refuse {α : Type} (reason : Malformed) : Scan α :=
  throw (.malformed reason)

/-- Add a token. -/
def push (t : Token) : Scan Unit :=
  modify fun s => { s with tokens := s.tokens.push t }

/-- Go to a place. -/
def goTo (c : Cursor) : Scan Unit :=
  modify fun s => { s with place := c }

/-- Go on behind some characters. -/
def skip (n : Nat) : Scan Unit :=
  modify fun s => { s with place := s.place.skip n }

/-- Say whether a key may begin at the next token. -/
def allowKey (allowed : Bool) : Scan Unit :=
  modify fun s => { s with keyAllowed := allowed }

/-! ## Keys and blocks -/

/-- The column of a place as an indentation. -/
def columnOf (s : Scanner) : Int := s.place.column

/-- Whether a candidate can no longer become a key. -/
def isStale (s : Scanner) (k : Candidate) : Bool :=
  k.line ≠ s.place.line || s.place.index - k.index > 1024

/-- Forget the candidates that can no longer become keys. -/
def dropStale : Scan Unit := do
  let s ← get
  if s.candidates.any fun (_, k) => isStale s k && k.isRequired then refuse .valueMissing
  set { s with candidates := s.candidates.filter fun (_, k) => !isStale s k }

/-- Forget the candidate at this depth. -/
def dropCandidate : Scan Unit := do
  let s ← get
  match s.candidates.lookup s.depth with
  | some k =>
    if k.isRequired then refuse .valueMissing
    set { s with candidates := s.candidates.filter (·.1 ≠ s.depth) }
  | none => pure ()

/-- Remember that a key may begin here. -/
def noteCandidate : Scan Unit := do
  let s ← get
  if s.keyAllowed then
    dropCandidate
    let candidate : Candidate := {
      tokens := s.tokens.size
      isRequired := s.depth = 0 && s.indent = columnOf s
      index := s.place.index
      line := s.place.line
      column := s.place.column }
    modify fun s => { s with candidates := (s.depth, candidate) :: s.candidates }

/-- End the blocks that stand further right than a column. -/
def endBlocks (column : Int) : (outer : List Int) → Scan Unit
  | [] => pure ()
  | outer :: rest => do
    if column < (← get).indent then
      modify fun s => { s with indent := outer, indents := rest, tokens := s.tokens.push .blockEnd }
      endBlocks column rest

/-- End the blocks that stand further right than a column, outside brackets. -/
def unwind (column : Int) : Scan Unit := do
  let s ← get
  if s.depth = 0 then endBlocks column s.indents

/-- Open a block at a column if it stands further right than the one around it, and tell whether it
does. -/
def openBlock (column : Int) : Scan Bool := do
  let s ← get
  if s.indent < column then
    set { s with indent := column, indents := s.indent :: s.indents }
    return true
  else return false

/-! ## Marks -/

/-- Behind the edge of a document, or in front of a directive, every block is ended. -/
def endAll : Scan Unit := do
  unwind (-1)
  dropCandidate
  allowKey false

/-- The start or the end of a document. -/
def documentMark (t : Token) : Scan Unit := do
  endAll
  skip 3
  push t

/-- An opening bracket. -/
def openBracket (t : Token) : Scan Unit := do
  noteCandidate
  modify fun s => { s with depth := s.depth + 1 }
  allowKey true
  skip 1
  push t

/-- A closing bracket. -/
def closeBracket (t : Token) : Scan Unit := do
  dropCandidate
  let s ← get
  if s.depth = 0 then refuse .contentMissing
  set { s with depth := s.depth - 1 }
  allowKey false
  skip 1
  push t

/-- A comma inside brackets. -/
def comma : Scan Unit := do
  allowKey true
  dropCandidate
  skip 1
  push .comma

/-- The hyphen of an item. -/
def entry : Scan Unit := do
  let s ← get
  if s.depth = 0 then
    if !s.keyAllowed then refuse .entryOutOfPlace
    if ← openBlock (columnOf s) then push .blockSequence
  allowKey true
  dropCandidate
  skip 1
  push .entry

/-- The question mark of a key. -/
def keyMark : Scan Unit := do
  let s ← get
  if s.depth = 0 then
    if !s.keyAllowed then refuse .keyOutOfPlace
    if ← openBlock (columnOf s) then push .blockMapping
  allowKey (s.depth = 0)
  dropCandidate
  skip 1
  push .key

/-- The colon of a value. With a candidate at this depth, that one is the key. -/
def valueMark : Scan Unit := do
  let s ← get
  match s.candidates.lookup s.depth with
  | some k =>
    set { s with
      candidates := s.candidates.filter (·.1 ≠ s.depth)
      tokens := s.tokens.insertIdxIfInBounds k.tokens .key }
    if s.depth = 0 then
      if ← openBlock k.column then
        modify fun s => { s with tokens := s.tokens.insertIdxIfInBounds k.tokens .blockMapping }
    allowKey false
  | none =>
    if s.depth = 0 then
      if !s.keyAllowed then refuse .valueOutOfPlace
      if ← openBlock (columnOf s) then push .blockMapping
    allowKey (s.depth = 0)
    dropCandidate
  skip 1
  push .value

/-! ## Directives -/

/-- A whole number in a directive. -/
def directiveNumber (c : Cursor) : Except Error (Nat × Cursor) :=
  let digits := c.run Char.isDigit
  if digits.isEmpty then .error (.malformed .badDirective)
  else if digits.length > Text.maxWholeDigits then .error (.fault (.longWhole digits.length))
  else .ok (Json.decimalValue digits, c.skip digits.length)

/-- The place behind spaces. -/
def skipSpaces (c : Cursor) : Cursor :=
  c.skipRun (· = ' ')

/-- The handle of a tag: an exclamation mark, or a name between two. -/
def tagHandle (c : Cursor) : Except Error (String × Cursor) :=
  if c.peek ≠ '!' then .error (.malformed .badTag)
  else
    let c := c.next
    if c.peek = ' ' then .ok ("!", c)
    else
      let name := c.run isNameChar
      let c := c.skip name.length
      if c.peek = '!' then .ok (String.ofList ('!' :: (name ++ ['!'])), c.next)
      else .error (.malformed .badTag)

/-- The characters of tags beside the percent sign. -/
def isTagChar (c : Char) : Bool :=
  c.isAlphanum || ("-;/?:@&=+$,_.!~*'()[]".toList).contains c

/-- The bytes that follow, each written with a percent sign and two digits. -/
def escapedBytes : (fuel : Nat) → Cursor → Except Error (List UInt8 × Cursor)
  | 0, c => .ok ([], c)
  | fuel + 1, c =>
    if c.peek = '%' then
      let digits := (c.rest.drop 1).take 2
      match if digits.length = 2 then hexNumber? digits else none with
      | none => .error (.malformed .badTag)
      | some n => do
        let (more, c) ← escapedBytes fuel (c.skip 3)
        return (UInt8.ofNat n :: more, c)
    else .ok ([], c)

/-- The characters of a tag that follow. -/
def tagChars : (fuel : Nat) → Cursor → Except Error (List Char × Cursor)
  | 0, c => .ok ([], c)
  | fuel + 1, c =>
    if c.peek = '%' then do
      let (bytes, c) ← escapedBytes c.steps c
      match String.fromUTF8? ⟨bytes.toArray⟩ with
      | none => throw (.malformed .badTag)
      | some s =>
        let (more, c) ← tagChars fuel c
        return (s.toList ++ more, c)
    else if isTagChar c.peek then do
      let (more, c') ← tagChars fuel c.next
      return (c.peek :: more, c')
    else .ok ([], c)

/-- A tag, or the end of one; it is not empty. -/
def tagText (c : Cursor) : Except Error (String × Cursor) := do
  let (cs, after) ← tagChars c.steps c
  if after.index = c.index then throw (.malformed .badTag)
  return (String.ofList cs, after)

/-- The version that a directive names. -/
def versionOf (c : Cursor) : Except Error (Token × Cursor) := do
  let (major, c) ← directiveNumber (skipSpaces c)
  if c.peek ≠ '.' then throw (.malformed .badDirective)
  let (_, c) ← directiveNumber c.next
  if !endsName c.peek then throw (.malformed .badDirective)
  return (.versionDirective major, c)

/-- The handle that a directive gives a meaning. -/
def handleOf (c : Cursor) : Except Error (Token × Cursor) := do
  let (handle, c) ← tagHandle (skipSpaces c)
  if c.peek ≠ ' ' then throw (.malformed .badDirective)
  let (lead, c) ← tagText (skipSpaces c)
  if !endsName c.peek then throw (.malformed .badDirective)
  return (.tagDirective handle lead, c)

/-- A directive; the cursor is behind the percent sign. -/
def directiveOf (c : Cursor) : Except Error (Token × Cursor) := do
  let name := String.ofList (c.run isNameChar)
  let c := c.skip name.length
  if name = "" || !endsName c.peek then throw (.malformed .badDirective)
  let (t, c) ←
    if name = "YAML" then versionOf c
    else if name = "TAG" then handleOf c
    else pure (.otherDirective, c.skipLine)
  return (t, ← c.endLine .badDirective)

/-- A directive. -/
def directive : Scan Unit := do
  endAll
  let (t, c) ← directiveOf (← get).place.next
  goTo c
  push t

/-! ## Names and tags -/

/-- The characters that may follow the name of an anchor or an alias, beside blanks. -/
def endsAnchor (c : Char) : Bool :=
  endsWord c || ['?', ':', ',', ']', '}', '%', '@', Char.ofNat 0x60].contains c

/-- The name of an anchor or an alias; the cursor is behind its mark. -/
def anchorName (c : Cursor) : Except Error (String × Cursor) :=
  let name := c.run isNameChar
  let c := c.skip name.length
  if name.isEmpty || !endsAnchor c.peek then .error (.malformed .badAnchor)
  else .ok (String.ofList name, c)

/-- An anchor or an alias. -/
def named (t : String → Token) : Scan Unit := do
  noteCandidate
  allowKey false
  let (name, c) ← anchorName (← get).place.next
  goTo c
  push (t name)

/-- Whether the tag that follows begins with a named handle, or with two exclamation marks. -/
def hasHandle (c : Cursor) : Bool :=
  (c.next.run (!endsName ·)).contains '!'

/-- A tag. -/
def tagOf (c : Cursor) : Except Error (Token × Cursor) := do
  let second := c.ahead 1
  let (t, c) ←
    if second = '<' then do
      let (text, c) ← tagText (c.skip 2)
      if c.peek ≠ '>' then throw (.malformed .badTag)
      pure (Token.tag none text, c.next)
    else if endsWord second then pure (Token.tag none "!", c.next)
    else do
      let (handle, c) ← if hasHandle c then tagHandle c else pure ("!", c.next)
      let (suffix, c) ← tagText c
      pure (Token.tag (some handle) suffix, c)
  if !endsName c.peek then throw (.malformed .badTag)
  return (t, c)

/-- A tag as a token. -/
def tag : Scan Unit := do
  noteCandidate
  allowKey false
  let (t, c) ← tagOf (← get).place
  goTo c
  push t

/-! ## Scalars -/

/-- A plain text. -/
def plain : Scan Unit := do
  noteCandidate
  let s ← get
  let r := readPlain (s.depth ≠ 0) (s.indent + 1).toNat s.place
  allowKey r.isBroken
  goTo r.after
  push (.scalar (String.ofList r.text) true)

/-- A quoted text. -/
def quoted : Scan Unit := do
  noteCandidate
  allowKey false
  let r ← readQuoted (← get).place
  goTo r.after
  push (.scalar (String.ofList r.text) false)

/-- A block, literal or folded. -/
def block (folded : Bool) : Scan Unit := do
  allowKey true
  dropCandidate
  let s ← get
  let r ← readBlock folded s.indent s.place
  goTo r.after
  push (.scalar (String.ofList r.text) false)

/-- Whether a plain text begins at a place. -/
def beginsPlain (c : Cursor) (inFlow : Bool) : Bool :=
  let ch := c.peek
  let marks := "-?:,[]{}#&*!|>'\"%@".toList
  !(endsWord ch || marks.contains ch || ch = Char.ofNat 0x60) ||
    (!endsWord (c.ahead 1) && (ch = '-' || (!inFlow && (ch = '?' || ch = ':'))))

/-! ## Tokens -/

/-- Go to the next token, over blanks, comments and breaks. Outside brackets a key may begin behind
a break. -/
def toNext : (fuel : Nat) → Scan Unit
  | 0 => pure ()
  | fuel + 1 => do
    let s ← get
    let c := (s.place.skipRun (· = ' ')).skipComment
    if isBreak c.peek then
      set { s with place := c.takeBreak.2, keyAllowed := s.keyAllowed || s.depth = 0 }
      toNext fuel
    else goTo c

/-- Read the next token. -/
def token : Scan Unit := do
  let s ← get
  let c := s.place
  let ch := c.peek
  let inFlow := s.depth ≠ 0
  if ch = '%' && c.column = 0 then directive
  else if c.column = 0 && c.isMarker '-' then documentMark .documentStart
  else if c.column = 0 && c.isMarker '.' then documentMark .documentEnd
  else if ch = '[' then openBracket .flowSequence
  else if ch = '{' then openBracket .flowMapping
  else if ch = ']' then closeBracket .flowSequenceEnd
  else if ch = '}' then closeBracket .flowMappingEnd
  else if ch = ',' then comma
  else if ch = '-' && endsWord (c.ahead 1) then entry
  else if ch = '?' && (inFlow || endsWord (c.ahead 1)) then keyMark
  else if ch = ':' && (inFlow || endsWord (c.ahead 1)) then valueMark
  else if ch = '*' then named .alias
  else if ch = '&' then named .anchor
  else if ch = '!' then tag
  else if ch = '|' && !inFlow then block false
  else if ch = '>' && !inFlow then block true
  else if ch = '\'' || ch = '"' then quoted
  else if beginsPlain c inFlow then plain
  else refuse (.badStart ch)

/-- Fail if the text cannot be read as far as this place. -/
def requireReadable : Scan Unit := do
  let c := (← get).place
  if c.readable ≤ c.index then throw .unread

/-- At the end of the text every block is ended, and nothing can become a key any more. -/
def finish : Scan Unit := do
  unwind (-1)
  dropCandidate
  modify fun s => { s with candidates := [], isDone := true }

/-- Read the next token, or the end of the text. -/
def step : Scan Unit := do
  toNext (← get).place.steps
  requireReadable
  dropStale
  unwind (columnOf (← get))
  if (← get).place.peek = endMark then finish
  else
    token
    requireReadable

/-- Whether more has to be read before the next token is known: it is not there yet, or it may
become a key. -/
def needsMore : Scan Bool := do
  if (← get).isDone then return false
  else if (← get).tokens.size = (← get).taken then return true
  else
    dropStale
    let s ← get
    return s.candidates.any fun (_, k) => k.tokens = s.taken

/-- Read until the next token is known. Each step but the last takes at least one character. -/
def fill : (fuel : Nat) → Scan Unit
  | 0 => pure ()
  | fuel + 1 => do
    if ← needsMore then
      step
      fill fuel

/-- The next token; none at the end of the text. -/
def peek : Scan (Option Token) := do
  fill ((← get).place.steps + 1)
  let s ← get
  return s.tokens[s.taken]?

/-- Go on behind the next token. -/
def drop : Scan Unit :=
  modify fun s => { s with taken := s.taken + 1 }

end Scan

/-! ## Blocks of a text -/

/-- How many characters are read at a time; at first it is twice as many. -/
def blockSize : Nat := 4096

/-- How many characters are read before the block of a character. -/
def readBefore (index : Nat) : Nat :=
  if index < 2 * blockSize then 0 else index / blockSize * blockSize

/-- How much of a text can be read, and what stands in the way of the rest: a character that a text
may not hold, or, where the text is cut off, that it does not go on. -/
def obstacle? (text : List Char) (isCut : Bool) : Option (Nat × Error) :=
  let cut := if isCut then some (readBefore text.length, .fault .badEncoding) else none
  let odd := (text.zipIdx.find? fun (c, _) => !isPrintable c).map fun (c, i) =>
    (readBefore i, Error.malformed (.unprintable c))
  match cut, odd with
  | some (n, e), some (m, f) => some (if m < n then (m, f) else (n, e))
  | some c, none => some c
  | none, o => o

/-- The scanner at the start of a text of which some characters can be read. A byte order mark there
is passed over. -/
def Scanner.start (text : List Char) (readable : Nat) : Scanner :=
  let c : Cursor := { rest := text, size := text.length, readable }
  { place := if c.peek = orderMark then c.next else c }

end CodeCatalog.Yaml
