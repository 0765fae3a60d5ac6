/-
The nodes that tokens build.

A text holds at most one document. Its nodes are kept in the order in which they begin and refer to
their parts by number, because a node may be named by an anchor and stand again wherever its alias
does, also within itself. A name is given once, and an alias stands behind the anchor that it goes
back to. Inside blocks and brackets, a key or a value that is not written is an empty plain text.
-/
import CodeCatalog.Yaml.Tag
import CodeCatalog.Yaml.Token

set_option autoImplicit false

namespace CodeCatalog.Yaml

/-- A node: a tag with a text, or with items or entries, which are the numbers of nodes. -/
inductive Node
  | scalar (tag : Tag) (text : String)
  | sequence (tag : Tag) (items : List Nat)
  | mapping (tag : Tag) (entries : List (Nat × Nat))
  deriving Repr, DecidableEq

instance : Inhabited Node := ⟨.scalar .null ""⟩

/-- The tag of a node. -/
def Node.tag : Node → Tag
  | scalar t _ => t
  | sequence t _ => t
  | mapping t _ => t

/-- What is left to read, the names that have a meaning, and the nodes so far. -/
structure Composer where
  scanner : Scanner
  handles : List (String × String) := []
  /-- The nodes with anchors. -/
  anchors : List (String × Nat) := []
  nodes : Array Node := #[]

/-- A step of building nodes. -/
abbrev Compose := StateT Composer (Except Error)

namespace Compose

variable {α : Type}

/-- Fail with a reason. -/
def refuse (reason : Malformed) : Compose α :=
  throw (.malformed reason)

/-- A step of the scanner. -/
def scan (a : Scan α) : Compose α := fun s =>
  match a s.scanner with
  | .ok (x, scanner) => .ok (x, { s with scanner })
  | .error e => .error e

/-- The next token. -/
def peek : Compose (Option Token) :=
  scan Scan.peek

/-- Go on behind the next token. -/
def drop : Compose Unit :=
  scan Scan.drop

/-- Go on behind a token if it is the next one, and tell whether it is. -/
def take (t : Token) : Compose Bool := do
  if (← peek) = some t then
    drop
    return true
  else return false

/-- Whether the next token is one of some. The end of the text is none of them. -/
def isNext (ts : List Token) : Compose Bool := do
  return ((← peek).map ts.contains).getD false

/-! ## Tags and anchors -/

/-- The handles that have a meaning of their own. -/
def ownHandles : List (String × String) := [("!", "!"), ("!!", Tag.standardLead)]

/-- The name of a tag. -/
def tagName (handle : Option String) (suffix : String) : Compose String := do
  match handle with
  | none => return suffix
  | some handle => match (← get).handles.lookup handle with
    | some lead => return lead ++ suffix
    | none => refuse (.unknownHandle handle)

/-- The tag that follows, if one does. -/
def readTag : Compose (Option (Option String × String)) := do
  match ← peek with
  | some (.tag handle suffix) => drop; return some (handle, suffix)
  | _ => return none

/-- The anchor that follows, if one does. -/
def readAnchor : Compose (Option String) := do
  match ← peek with
  | some (.anchor name) => drop; return some name
  | _ => return none

/-- What stands in front of a node: an anchor and the name of a tag, in either order. -/
def properties : Compose (Option String × Option String) := do
  let anchor ← readAnchor
  let tag ← readTag
  let anchor ← match anchor, tag with
    | none, some _ => readAnchor
    | _, _ => pure anchor
  let name ← match tag with
    | some (handle, suffix) => some <$> tagName handle suffix
    | none => pure none
  return (anchor, name)

/-- The tag of a text: a single exclamation mark has its form looked at, no tag does so if the text
is plain. -/
def scalarTag (name : Option String) (text : String) (plain : Bool) : Tag :=
  match name with
  | some "!" => .ofPlain text
  | some name => .ofName name
  | none => if plain then .ofPlain text else .text

/-- The tag of a collection. -/
def collectionTag (name : Option String) (usual : Tag) : Tag :=
  match name with
  | some "!" => usual
  | some name => .ofName name
  | none => usual

/-- Add a node, which may have an anchor, and tell its number. -/
def add (anchor : Option String) (n : Node) : Compose Nat := do
  let s ← get
  let number := s.nodes.size
  match anchor with
  | none => set { s with nodes := s.nodes.push n }
  | some name =>
    if s.anchors.any (·.1 = name) then refuse (.repeatedAnchor name)
    set { s with nodes := s.nodes.push n, anchors := (name, number) :: s.anchors }
  return number

/-- Add a text that is not written. -/
def absent : Compose Nat :=
  add none (.scalar (.ofPlain "") "")

/-- Put another node in the place of one. -/
def replace (number : Nat) (n : Node) : Compose Unit :=
  modify fun s => { s with nodes := s.nodes.setIfInBounds number n }

/-- Add a sequence, whose items are built after it has its number. -/
def addSequence (anchor name : Option String) (items : Compose (List Nat)) : Compose Nat := do
  let t := collectionTag name .sequence
  let number ← add anchor (.sequence t [])
  replace number (.sequence t (← items))
  return number

/-- Add a mapping, whose entries are built after it has its number. -/
def addMapping (anchor name : Option String) (entries : Compose (List (Nat × Nat))) :
    Compose Nat := do
  let t := collectionTag name .mapping
  let number ← add anchor (.mapping t [])
  replace number (.mapping t (← entries))
  return number

/-- The node that an alias stands for. -/
def aliased (name : String) : Compose Nat := do
  match (← get).anchors.lookup name with
  | some number => return number
  | none => refuse (.unknownAnchor name)

/-! ## Nodes -/

/-- How deep nodes may be nested. -/
def maxDepth : Nat := 480

/-- Where a node stands, which decides what it may begin with. -/
inductive Position
  /-- Between brackets. -/
  | flow
  /-- In a block. -/
  | block
  /-- In a block mapping, where a sequence need not be indented. -/
  | entry
  deriving DecidableEq

mutual

/-- A node. `fuel` bounds the tokens that are looked at, `depth` the nodes around it. -/
def node : (fuel depth : Nat) → Position → Compose Nat
  | 0, _, _ => throw (.fault .tooDeep)
  | fuel + 1, depth, position => do
    if depth = 0 then throw (.fault .tooDeep)
    match ← peek with
    | some (.alias name) => drop; aliased name
    | _ =>
      let (anchor, name) ← properties
      match ← peek with
      | some (.scalar text plain) =>
        drop
        add anchor (.scalar (scalarTag name text plain) text)
      | some .flowSequence =>
        drop
        addSequence anchor name (flowItems fuel (depth - 1) true)
      | some .flowMapping =>
        drop
        addMapping anchor name (flowEntries fuel (depth - 1) true)
      | some .entry =>
        if position = .entry then addSequence anchor name (looseItems fuel (depth - 1))
        else emptyNode anchor name
      | some .blockSequence =>
        if position ≠ .flow then
          drop
          addSequence anchor name (blockItems fuel (depth - 1))
        else emptyNode anchor name
      | some .blockMapping =>
        if position ≠ .flow then
          drop
          addMapping anchor name (blockEntries fuel (depth - 1))
        else emptyNode anchor name
      | _ => emptyNode anchor name

/-- A node that is nothing but an anchor or a tag. -/
def emptyNode (anchor name : Option String) : Compose Nat := do
  if anchor.isNone && name.isNone then refuse .contentMissing
  add anchor (.scalar (scalarTag name "" true) "")

/-- A node, unless one of some tokens follows. -/
def nodeUnless : (fuel depth : Nat) → Position → (ends : List Token) → Compose Nat
  | 0, _, _, _ => throw (.fault .tooDeep)
  | fuel + 1, depth, position, ends => do
    if ← isNext ends then absent else node fuel depth position

/-- The items of an indented sequence. -/
def blockItems : (fuel depth : Nat) → Compose (List Nat)
  | 0, _ => throw (.fault .tooDeep)
  | fuel + 1, depth => do
    if ← take .entry then
      let item ← nodeUnless fuel depth .block [.entry, .blockEnd]
      return item :: (← blockItems fuel depth)
    else if ← take .blockEnd then return []
    else refuse .blockNotEnded

/-- The items of a sequence that is not indented. -/
def looseItems : (fuel depth : Nat) → Compose (List Nat)
  | 0, _ => throw (.fault .tooDeep)
  | fuel + 1, depth => do
    if ← take .entry then
      let item ← nodeUnless fuel depth .block [.entry, .key, .value, .blockEnd]
      return item :: (← looseItems fuel depth)
    else return []

/-- The entries of a block mapping. -/
def blockEntries : (fuel depth : Nat) → Compose (List (Nat × Nat))
  | 0, _ => throw (.fault .tooDeep)
  | fuel + 1, depth => do
    if ← take .key then
      let key ← nodeUnless fuel depth .entry [.key, .value, .blockEnd]
      let value ← blockValue fuel depth
      return (key, value) :: (← blockEntries fuel depth)
    else if ← take .blockEnd then return []
    else refuse .blockNotEnded

/-- The value in a block mapping. -/
def blockValue : (fuel depth : Nat) → Compose Nat
  | 0, _ => throw (.fault .tooDeep)
  | fuel + 1, depth => do
    if ← take .value then nodeUnless fuel depth .entry [.key, .value, .blockEnd]
    else absent

/-- The items between square brackets. A key among them makes a mapping of one entry. -/
def flowItems : (fuel depth : Nat) → (first : Bool) → Compose (List Nat)
  | 0, _, _ => throw (.fault .tooDeep)
  | fuel + 1, depth, first => do
    if ← take .flowSequenceEnd then return []
    else
      if !first then
        if !(← take .comma) then refuse .flowNotEnded
      if ← take .key then
        let pair ← addMapping none none do
          let key ← nodeUnless fuel depth .flow [.value, .comma, .flowSequenceEnd]
          let value ← flowValue fuel depth [.comma, .flowSequenceEnd]
          return [(key, value)]
        return pair :: (← flowItems fuel depth false)
      else if ← take .flowSequenceEnd then return []
      else
        let item ← node fuel depth .flow
        return item :: (← flowItems fuel depth false)

/-- A value between brackets. -/
def flowValue : (fuel depth : Nat) → (ends : List Token) → Compose Nat
  | 0, _, _ => throw (.fault .tooDeep)
  | fuel + 1, depth, ends => do
    if ← take .value then nodeUnless fuel depth .flow ends
    else absent

/-- The entries between curly brackets. A node that is no key has no value. -/
def flowEntries : (fuel depth : Nat) → (first : Bool) → Compose (List (Nat × Nat))
  | 0, _, _ => throw (.fault .tooDeep)
  | fuel + 1, depth, first => do
    if ← take .flowMappingEnd then return []
    else
      if !first then
        if !(← take .comma) then refuse .flowNotEnded
      if ← take .key then
        let key ← nodeUnless fuel depth .flow [.value, .comma, .flowMappingEnd]
        let value ← flowValue fuel depth [.comma, .flowMappingEnd]
        return (key, value) :: (← flowEntries fuel depth false)
      else if ← take .flowMappingEnd then return []
      else
        let key ← node fuel depth .flow
        let value ← absent
        return (key, value) :: (← flowEntries fuel depth false)

end

/-! ## Documents -/

/-- The directives that follow. A version and a handle are given once; `versioned` tells whether a
version has been. -/
def directives (versioned : Bool) (handles : List (String × String)) :
    (fuel : Nat) → Compose (List (String × String))
  | 0 => return handles
  | fuel + 1 => do
    match ← peek with
    | some (.versionDirective major) =>
      if versioned || major ≠ 1 then refuse .badDirective
      drop
      directives true handles fuel
    | some (.tagDirective handle lead) =>
      if handles.any (·.1 = handle) then refuse .badDirective
      drop
      directives versioned ((handle, lead) :: handles) fuel
    | some .otherDirective => drop; directives versioned handles fuel
    | _ => return handles

/-- Go on behind the ends of documents. -/
def dropEnds : (fuel : Nat) → Compose Unit
  | 0 => return ()
  | fuel + 1 => do
    if ← take .documentEnd then dropEnds fuel

/-- The start of a document with what stands in front of it. -/
def documentStart (fuel : Nat) : Compose Unit := do
  let handles ← directives false [] fuel
  if !(← take .documentStart) then refuse .documentStartMissing
  modify fun s => { s with handles := handles ++ ownHandles }

/-- Whether a token stands in front of a document. -/
def isPrologue : Token → Bool
  | .versionDirective _ => true
  | .tagDirective _ _ => true
  | .otherDirective => true
  | .documentStart => true
  | _ => false

/-- The node of a document that begins with a mark. -/
def markedDocument (fuel depth : Nat) : Compose Nat := do
  documentStart fuel
  match ← peek with
  | none => absent
  | some t => if isPrologue t || t = .documentEnd then absent else node fuel depth .block

/-- Fail unless the text ends here. What stands in front of another document is looked at. -/
def requireEnd (fuel : Nat) : Compose Unit := do
  dropEnds fuel
  if (← peek).isSome then
    documentStart fuel
    refuse .secondDocument

/-- The only document, if there is one. -/
def document (fuel depth : Nat) : Compose (Option Nat) := do
  match ← peek with
  | none => return none
  | some t =>
    let root ← if isPrologue t then markedDocument fuel depth else do
      modify fun s => { s with handles := ownHandles }
      node fuel depth .block
    requireEnd fuel
    return some root

end Compose

/-- The nodes of a text, and the one that everything else is part of. -/
structure Graph where
  nodes : Array Node
  root : Nat

/-- The nodes that a text writes, if it holds a document. No more tokens are looked at than there
are characters, each with the keys and blocks that it may begin. -/
def Graph.compose (s : Scanner) : Except Error (Option Graph) := do
  let fuel := 16 * s.place.steps
  let (root, c) ← (Compose.document fuel Compose.maxDepth).run { scanner := s }
  return root.map fun root => { nodes := c.nodes, root }

end CodeCatalog.Yaml
