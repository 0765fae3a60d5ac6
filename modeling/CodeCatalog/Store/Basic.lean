/-
The element store: every element currently known, with look-ups by id, name, full name, kind and
parent.

The store keeps one element per id. Beside it stand buckets of ids, one per kind, per lower-case
name and per parent, and for each lower-case full name the id that took it last. Buckets only grow
until the store is cleared: an id that is added again is listed again, and an id listed under an
earlier name leads to the element that the id has now.
-/
import CodeCatalog.Element.Basic
import CodeCatalog.Failure
import CodeCatalog.Store.Ledger
import CodeCatalog.Text.Case

set_option autoImplicit false

namespace CodeCatalog

/-- Elements one after another, as a caller hands them over. An absent element and a failure of the
caller are possible at any place. -/
abbrev Feed := List (Except Failure (Option Element))

/-- The elements currently known. -/
structure Store where
  elements : Ledger String Element := {}
  byKind : Ledger Kind (List String) := {}
  byName : Ledger String (List String) := {}
  byFullName : Ledger String String := {}
  byParent : Ledger String (List String) := {}
  deriving Repr, DecidableEq, Inhabited

namespace Store

/-- A store without elements. -/
def empty : Store := {}

/-! ## Adding -/

/-- The buckets of parents with an element's id, if it has a parent. -/
def pushParent (m : Ledger String (List String)) (e : Element) : Ledger String (List String) :=
  match e.parentId with
  | none => m
  | some p => m.push p e.id

/-- The store with an element, which replaces the one with its id. -/
def insert (s : Store) (e : Element) : Store where
  elements := s.elements.put e.id e
  byKind := s.byKind.push e.kind e.id
  byName := s.byName.push (Text.lower e.name) e.id
  byFullName := s.byFullName.put (Text.lower e.fullName) e.id
  byParent := pushParent s.byParent e

/-- The store with an element that has to be there. -/
def add (s : Store) : Option Element → Except Failure Store
  | none => .error (.catalog (.missingArgument "element"))
  | some e => .ok (s.insert e)

/-- The store with elements added one after another up to the first failure, and that failure. -/
def addAll (s : Store) : Feed → Store × Option Failure
  | [] => (s, none)
  | .error f :: _ => (s, some f)
  | .ok e :: rest =>
    match s.add e with
    | .ok s => s.addAll rest
    | .error f => (s, some f)

/-! ## Looking up -/

/-- The element with an id. -/
def getById (s : Store) (id : String) : Option Element :=
  s.elements.get? id

/-- The elements that ids now stand for. An id that stands for none is a fault of the store. -/
def resolve (s : Store) (ids : List String) : Except Fault (List Element) :=
  ids.mapM fun id =>
    match s.getById id with
    | some e => .ok e
    | none => .error (.unknownKey id)

/-- The element whose id was the last to take a full name, ignoring case. -/
def getByFullName (s : Store) (fullName : String) : Option Element :=
  (s.byFullName.get? (Text.lower fullName)).bind s.getById

/-- The elements added under a name, ignoring case. -/
def findByName (s : Store) (name : String) : Except Fault (List Element) :=
  s.resolve (s.byName.bucket (Text.lower name))

/-- Whether `needle` stands somewhere in `text`. -/
def isInside (needle : List Char) : List Char → Bool
  | [] => needle.isEmpty
  | c :: rest => needle.isPrefixOf (c :: rest) || isInside needle rest

/-- The elements added under a name that contains a pattern, ignoring case. -/
def findByNamePattern (s : Store) (pattern : String) : Except Fault (List Element) := do
  let needle := (Text.lower pattern).toList
  let buckets := s.byName.entries.filter fun bucket => isInside needle bucket.1.toList
  return (← buckets.mapM fun bucket => s.resolve bucket.2).flatten

/-- The elements added with a kind. -/
def getByKind (s : Store) (kind : Kind) : Except Fault (List Element) :=
  s.resolve (s.byKind.bucket kind)

/-- The elements added with a parent. -/
def getChildren (s : Store) (parentId : String) : Except Fault (List Element) :=
  s.resolve (s.byParent.bucket parentId)

/-- All elements, in the order in which their ids first came. -/
def getAll (s : Store) : List Element :=
  s.elements.values

/-- The number of elements. -/
def count (s : Store) : Nat :=
  s.elements.size

end Store

end CodeCatalog
