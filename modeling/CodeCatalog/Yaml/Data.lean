/-
The data that a YAML text writes.

A collection that holds itself, directly or through others, has no end when it is written out. It is
written out as deep as settings lie, and from there on up to its first repetition on each way, which
is all that a message shows. Any other collection is written out once and shared.
-/
import CodeCatalog.Yaml.Build

set_option autoImplicit false

namespace CodeCatalog.Yaml

/-! ## Collections that end -/

/-- The datum of a part, if it has been found. -/
def Part.datum? (found : Array (Option Datum)) : Part → Option Datum
  | scalar s => some (.scalar s)
  | collection n => found[n]?.join

/-- The pair of two parts, if the data of both have been found. -/
def pairDatum? (found : Array (Option Datum)) (pair : Part × Part) : Option Datum := do
  return .pair (← pair.1.datum? found) (← pair.2.datum? found)

/-- The entry of a part, if its datum has been found. -/
def entryDatum? (found : Array (Option Datum)) (entry : Scalar × Part) :
    Option (Scalar × Datum) :=
  (entry.2.datum? found).map fun d => (entry.1, d)

/-- The datum of a collection whose parts have all been found. -/
def Collection.datum? (found : Array (Option Datum)) : Collection → Option Datum
  | list items => (items.mapM (Part.datum? found)).map .list
  | pairs items => (items.mapM (pairDatum? found)).map .list
  | set members => some (.set members)
  | table entries => (entries.mapM (entryDatum? found)).map .table

/-- The data found once every collection has been looked at, from the last one on. -/
def findMore (collections : Array (Option Collection)) (found : Array (Option Datum)) :
    Array (Option Datum) :=
  (List.range collections.size).foldr (fun n found =>
    if (found[n]?.join).isSome then found
    else found.setIfInBounds n ((collections[n]?.join).bind (Collection.datum? found))) found

/-- How many data have been found. -/
def foundCount (found : Array (Option Datum)) : Nat :=
  found.foldl (fun n d => if d.isSome then n + 1 else n) 0

/-- Look at the collections until nothing more is found. -/
def findAll (collections : Array (Option Collection)) :
    (fuel : Nat) → (found : Array (Option Datum)) → Array (Option Datum)
  | 0, found => found
  | fuel + 1, found =>
    let more := findMore collections found
    if foundCount more = foundCount found then found else findAll collections fuel more

/-! ## Collections that hold themselves -/

/-- How deep settings lie: in a section, a list in it, an item of that, and an entry of the item. -/
def settingDepth : Nat := 4

/-- Whether a collection is a table. -/
def Collection.isTable : Collection → Bool
  | table _ => true
  | _ => false

/-- The datum of a part. `around` are the collections around it that are as deep as settings. -/
def unfold (collections : Array (Option Collection)) (found : Array (Option Datum)) :
    (fuel depth : Nat) → (around : List Nat) → Part → Datum
  | _, _, _, .scalar s => .scalar s
  | 0, _, _, .collection _ => .again false
  | fuel + 1, depth, around, .collection n =>
    match found[n]?.join, collections[n]?.join with
    | some d, _ => d
    | none, none => .null
    | none, some c =>
      if around.contains n then .again c.isTable
      else
        let inner := unfold collections found fuel (depth + 1)
          (if depth < settingDepth then [] else n :: around)
        .knot n (match c with
          | .list items => .list (items.map inner)
          | .pairs items => .list (items.map fun (a, b) => .pair (inner a) (inner b))
          | .set members => .set members
          | .table entries => .table (entries.map fun (k, p) => (k, inner p)))

/-- The datum of what has been built. -/
def Built.datum (b : Built) : Datum :=
  let size := b.collections.size
  let found := findAll b.collections (size + 1) (.replicate size none)
  unfold b.collections found (size + settingDepth + 2) 0 [] b.root

/-! ## Texts -/

/-- The datum that a text writes; a text without a document is nothing. A text that is cut off goes
on with bytes that cannot be read. -/
def read (text : List Char) (isCut : Bool) : Except Error Datum := do
  let text := Text.unifyLineEnds text
  let (readable, obstacle) := (obstacle? text isCut).getD (text.length + 1, .unread)
  let graph ← (Graph.compose (.start text readable)).mapError fun
    | .unread => obstacle
    | e => e
  match graph with
  | none => return .null
  | some g => return (← g.build).datum

end CodeCatalog.Yaml
