/-
What the nodes of a text stand for: single values, and collections that refer to their parts.

Each node is built once, however often it is referred to. A collection is there before its parts
are: the parts of a collection are built when every collection that was met before it has its parts,
so that of several values that cannot be formed the one nearest to the root counts.

In a mapping, the key `<<` merges the mappings under it: their entries come first, those of the
mapping itself count where both have a key. Keys are single values. A mapping with the tag of a
single value stands for what is under its key `=`.
-/
import CodeCatalog.Yaml.Value

set_option autoImplicit false

namespace CodeCatalog.Yaml

/-- What a node stands for: a single value, or the collection with the number of the node. -/
inductive Part
  | scalar (s : Scalar)
  | collection (number : Nat)
  deriving Repr, DecidableEq

/-- A collection with its parts. -/
inductive Collection
  | list (items : List Part)
  | pairs (items : List (Part × Part))
  | set (members : List Scalar)
  | table (entries : List (Scalar × Part))
  deriving Repr, DecidableEq, Inhabited

/-- Entries with a key bound to a part: in its old place if it has one, otherwise at the end. -/
def putKey (entries : List (Scalar × Part)) (key : Scalar) (value : Part) :
    List (Scalar × Part) :=
  match entries with
  | [] => [(key, value)]
  | (k, v) :: rest =>
    if k.sameKey key then (k, value) :: rest else (k, v) :: putKey rest key value

/-- Whether a tag makes a collection. -/
def Tag.isCollection : Tag → Bool
  | sequence | mapping | set | orderedMap | pairs => true
  | _ => false

/-- The nodes, what has been built of them, and the collections whose parts have not been built. -/
structure Builder where
  nodes : Array Node
  parts : Array (Option Part)
  collections : Array (Option Collection)
  /-- The collections that wait, the latest first. -/
  waiting : List Nat := []
  /-- How many entries the mappings have, which bounds how deep merges can lie in each other. -/
  limit : Nat

/-- A step of building. -/
abbrev Build := StateT Builder (Except Error)

namespace Build

/-- Fail because of the form of the text. -/
def refuse {α : Type} (reason : Malformed) : Build α :=
  throw (.malformed reason)

/-- The node with a number. -/
def nodeAt (number : Nat) : Build Node := do
  return ((← get).nodes[number]?).getD default

/-- Put another node in the place of one. -/
def replace (number : Nat) (n : Node) : Build Unit :=
  modify fun s => { s with nodes := s.nodes.setIfInBounds number n }

/-! ## Single values -/

/-- The first value under the key `=` among entries. -/
def valueEntry? (nodes : Array Node) (entries : List (Nat × Nat)) : Option Nat :=
  (entries.find? fun (key, _) => nodes[key]?.map Node.tag = some .value).map (·.2)

/-- The text of a node, or of what is under its key `=`. -/
def textOf : (fuel : Nat) → (number : Nat) → Build String
  | 0, _ => throw (.fault .tooDeep)
  | fuel + 1, number => do
    match ← nodeAt number with
    | .scalar _ s => return s
    | .sequence _ _ => refuse .wrongTag
    | .mapping _ entries => match valueEntry? (← get).nodes entries with
      | some value => textOf fuel value
      | none => refuse .wrongTag

/-- Fail on a date that is not written as a text of its own. -/
def requireDateText : Node → Build Unit
  | .scalar _ _ => pure ()
  | _ => throw (.fault (.notText (.list [])))

/-- The single value of a node with a tag for one. -/
def scalarOf (n : Node) (number : Nat) : Build Scalar := do
  match n.tag with
  | .merge | .value | .other _ => refuse .unknownTag
  | t =>
    let s ← textOf ((← get).nodes.size + 1) number
    if t = .timestamp then requireDateText n
    match t.scalar s with
    | .ok v => return v
    | .error e => throw e

/-- What a node stands for. A collection that is met for the first time waits for its parts. -/
def part (number : Nat) : Build Part := do
  match (← get).parts[number]?.join with
  | some p => return p
  | none =>
    let n ← nodeAt number
    let p ← if n.tag.isCollection then do
        modify fun s => { s with waiting := number :: s.waiting }
        pure (.collection number)
      else Part.scalar <$> scalarOf n number
    modify fun s => { s with parts := s.parts.setIfInBounds number (some p) }
    return p

/-! ## Merging -/

/-- The entries of a node that is a mapping. -/
def entriesOf (number : Nat) : Build (List (Nat × Nat)) := do
  match ← nodeAt number with
  | .mapping _ entries => return entries
  | _ => return []

/-- Give a mapping other entries. -/
def setEntries (number : Nat) (entries : List (Nat × Nat)) : Build Unit := do
  match ← nodeAt number with
  | .mapping t _ => replace number (.mapping t entries)
  | _ => pure ()

/-- Put what was merged in front of the entries of a mapping. -/
def putMerged (number : Nat) (merged : List (Nat × Nat)) : Build Unit := do
  if !merged.isEmpty then setEntries number (merged ++ (← entriesOf number))

/-- The key `=` of a mapping is a text. -/
def settleKey (key : Nat) : Build Unit := do
  match ← nodeAt key with
  | .scalar .value s => replace key (.scalar .text s)
  | _ => pure ()

/-- Merge what is under the merging keys of a mapping into it. `kept` are the entries that have been
looked at and `merged` what has been found so far. Where a mapping merges itself, that has dealt
with its other keys too. -/
def mergeEntries (find : Nat → Build (List (Nat × Nat))) (number : Nat)
    (kept merged : List (Nat × Nat)) : (entries : List (Nat × Nat)) → Build Unit
  | [] => putMerged number merged
  | (key, value) :: rest => do
    if (← nodeAt key).tag = .merge then
      setEntries number (kept ++ rest)
      let more ← find value
      if (← entriesOf number) = kept ++ rest then
        mergeEntries find number kept (merged ++ more) rest
      else putMerged number (merged ++ more)
    else
      settleKey key
      mergeEntries find number (kept ++ [(key, value)]) merged rest

/-- The entries of a mapping, with what is merged into it. -/
def flatEntries (find : Nat → Build (List (Nat × Nat))) (number : Nat) :
    Build (List (Nat × Nat)) := do
  mergeEntries find number [] [] (← entriesOf number)
  entriesOf number

/-- The entries of some mappings, those of the first one last. -/
def itemEntries (flat : Nat → Build (List (Nat × Nat))) :
    (items : List Nat) → Build (List (Nat × Nat))
  | [] => return []
  | item :: rest => do
    match ← nodeAt item with
    | .mapping _ _ =>
      let entries ← flat item
      return (← itemEntries flat rest) ++ entries
    | _ => refuse .badMerge

/-- The entries that a node merges into a mapping: its own, or those of the mappings in it. -/
def mergedOf : (fuel : Nat) → (number : Nat) → Build (List (Nat × Nat))
  | 0, _ => throw (.fault .tooDeep)
  | fuel + 1, number => do
    let flat := flatEntries (mergedOf fuel)
    match ← nodeAt number with
    | .mapping _ _ => flat number
    | .sequence _ items => itemEntries flat items
    | .scalar _ _ => refuse .badMerge

/-! ## Collections -/

/-- The entries of a table. A later value counts, in the place of the first one. -/
def tableOf : (entries : List (Nat × Nat)) → (done : List (Scalar × Part)) →
    Build (List (Scalar × Part))
  | [], done => return done
  | (key, value) :: rest, done => do
    match ← part key with
    | .collection _ => refuse .badKey
    | .scalar k =>
      let v ← part value
      tableOf rest (putKey done k v)

/-- The entries of a node that has to be a mapping. -/
def tableAt (number : Nat) : Build (List (Scalar × Part)) := do
  match ← nodeAt number with
  | .mapping _ _ => tableOf (← flatEntries (mergedOf (← get).limit) number) []
  | _ => refuse .wrongTag

/-- The pair of a node that has to be a mapping with one entry. -/
def pairAt (number : Nat) : Build (Part × Part) := do
  match ← nodeAt number with
  | .mapping _ [(key, value)] =>
    let k ← part key
    return (k, ← part value)
  | _ => refuse .wrongTag

/-- The items of a node that has to be a sequence. -/
def itemsAt (number : Nat) : Build (List Nat) := do
  match ← nodeAt number with
  | .sequence _ items => return items
  | _ => refuse .wrongTag

/-- The collection of a node with its parts. -/
def collection (number : Nat) : Build Collection := do
  match (← nodeAt number).tag with
  | .sequence => return .list (← (← itemsAt number).mapM part)
  | .orderedMap | .pairs => return .pairs (← (← itemsAt number).mapM pairAt)
  | .set => return .set ((← tableAt number).map (·.1))
  | _ => return .table (← tableAt number)

/-- Build the parts of the collections that wait, and of those that are met then. -/
def buildWaiting : (fuel : Nat) → Build Unit
  | 0 => return ()
  | fuel + 1 => do
    let round := (← get).waiting.reverse
    if !round.isEmpty then
      modify fun s => { s with waiting := [] }
      round.forM fun number => do
        let c ← collection number
        modify fun s => { s with collections := s.collections.setIfInBounds number (some c) }
      buildWaiting fuel

/-- Build a node and everything that it refers to. -/
def build (root : Nat) : Build Part := do
  let p ← part root
  buildWaiting ((← get).nodes.size + 1)
  return p

end Build

/-- What the root of a graph stands for, with the collections by the numbers of their nodes. -/
structure Built where
  root : Part
  collections : Array (Option Collection)

/-- How many entries the mappings among nodes have. -/
def entryCount (nodes : Array Node) : Nat :=
  nodes.foldl (fun n node => match node with
    | .mapping _ entries => n + entries.length
    | _ => n) 0

/-- Build what a graph stands for. -/
def Graph.build (g : Graph) : Except Error Built := do
  let b : Builder := {
    nodes := g.nodes
    parts := .replicate g.nodes.size none
    collections := .replicate g.nodes.size none
    limit := entryCount g.nodes + 1 }
  let (root, b) ← (Build.build g.root).run b
  return { root, collections := b.collections }

end CodeCatalog.Yaml
