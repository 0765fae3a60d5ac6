/-
A map that keeps its keys in the order in which they first came.

Writing to a key that is already there changes its value and not its place.
-/

set_option autoImplicit false

namespace CodeCatalog

/-- A map whose keys keep the order of their first appearance. -/
structure Ledger (κ β : Type) where
  entries : List (κ × β) := []
  deriving Repr, DecidableEq, Inhabited

namespace Ledger

variable {κ β : Type} [DecidableEq κ]

/-- The first value under a key in a list of entries. -/
def lookUp (k : κ) : List (κ × β) → Option β
  | [] => none
  | (l, b) :: rest => if l = k then some b else lookUp k rest

/-- The entries with the value under `k` replaced by what `f` makes of it, or added at the end. -/
def alterEntries (k : κ) (f : Option β → β) : List (κ × β) → List (κ × β)
  | [] => [(k, f none)]
  | (l, b) :: rest => if l = k then (l, f (some b)) :: rest else (l, b) :: alterEntries k f rest

/-- The value under a key. -/
def get? (m : Ledger κ β) (k : κ) : Option β :=
  lookUp k m.entries

/-- The keys, in the order in which they first came. -/
def keys (m : Ledger κ β) : List κ :=
  m.entries.map (·.1)

/-- The values, in the order of their keys. -/
def values (m : Ledger κ β) : List β :=
  m.entries.map (·.2)

/-- The number of keys. -/
def size (m : Ledger κ β) : Nat :=
  m.entries.length

/-- The map with a key bound to a value. -/
def put (m : Ledger κ β) (k : κ) (b : β) : Ledger κ β :=
  ⟨alterEntries k (fun _ => b) m.entries⟩

/-- The map with a value added to the end of the list under a key. -/
def push (m : Ledger κ (List β)) (k : κ) (b : β) : Ledger κ (List β) :=
  ⟨alterEntries k (fun old => old.getD [] ++ [b]) m.entries⟩

/-- The list under a key, empty if the key is not there. -/
def bucket (m : Ledger κ (List β)) (k : κ) : List β :=
  (m.get? k).getD []

end Ledger

end CodeCatalog
