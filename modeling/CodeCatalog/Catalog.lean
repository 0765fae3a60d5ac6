/-
The catalogue: one element store and one search index over the same elements.

The store answers exact look-ups of whole elements, the index answers searches. A build replaces
both; an update or a deletion goes to the index alone.
-/
import CodeCatalog.Search.Index
import CodeCatalog.Settings.Model

set_option autoImplicit false

namespace CodeCatalog

open Search

/-- A catalogue at work. -/
structure Catalog where
  store : Store := {}
  limits : LimitSettings := {}
  desk : Desk
  deriving Inhabited

namespace Catalog

/-- The handle of a catalogue's index. -/
def indexOf (folder path : Path) (s : IndexSettings) : Index :=
  Index.new folder path s.writerHeapMegabytes s.writerThreads s.refreshInterval

/-- A result limit: the default unless one is given, and never more than `maxResults`. -/
def clamp (limit default : Json.Value) : Except Fault Json.Value :=
  Limit.clamp maxResults limit default

/-- An action on the index. -/
def onIndex {α : Type} (a : IndexAct α) : Act Catalog α :=
  a.onPart Catalog.desk fun c d => { c with desk := d }

/-- Put elements into the store as they come, up to the first that is absent or fails. -/
def fillStore (es : Feed) : Act Catalog Unit :=
  Act.ofOutcome fun c =>
    let (s, failure) := c.store.addAll es
    (match failure with
      | none => .ok ()
      | some f => .error f,
      { c with store := s })

/-- Replace the store and the index by elements, and tell how many documents there are. -/
def build (es : Feed) : Act Catalog Nat := do
  modify fun c => { c with store := .empty }
  fillStore es
  let stored := (← get).store.getAll
  let count ← onIndex (Desk.buildIndex (stored.map fun e => .ok (some e)))
  onIndex do
    let d ← get
    Desk.emit .info "code_index_built"
      [("elements", .int count), ("path", .text d.index.path.text)]
  return count

/-- A read as the catalogue's callers ask for it, with a limit that may be null. -/
abbrev Ask := Desk.Read

/-- The read for a question, with the limits that `limit` makes of those given and the defaults. -/
def readWith (limit : (given default : Json.Value) → Except Fault Json.Value)
    (limits : LimitSettings) : Ask → Except Fault Desk.Read
  | .byName pattern n => return .byName pattern (← limit n (.int limits.byName))
  | .byFullName fullName => return .byFullName fullName
  | .byKind kind n => return .byKind kind (← limit n (.int limits.byKind))
  | .byParent parentId n => return .byParent parentId (← limit n (.int limits.byParent))
  | .advanced q n => return .advanced q (← limit n (.int limits.advanced))

/-- The read of the index that answers a question. -/
def readOf (limits : LimitSettings) : Ask → Except Fault Desk.Read :=
  readWith clamp limits

/-- The read for a question that is put to the index itself: a given limit counts as it is. -/
def plainReadOf : Ask → Except Fault Desk.Read :=
  readWith (fun n default => .ok (if n = .null then default else n)) {}

/-- Answer a question. -/
def search (a : Ask) : Act Catalog (List Summary) := do
  let c ← get
  onIndex (Desk.read (← Act.ofFault (readOf c.limits a)))

end Catalog

end CodeCatalog
