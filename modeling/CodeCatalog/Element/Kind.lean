/-
Kinds of catalogued elements, and the variant of element that carries each kind.

A kind belongs to exactly one variant: namespaces, types, members, and the assets that are no code.
The kinds of types and members are types of their own, so a variant cannot carry a kind that is not
its own.
-/

set_option autoImplicit false

namespace CodeCatalog

/-- The four variants of element. -/
inductive Variant
  | space
  | type
  | member
  | asset
  deriving Repr, DecidableEq, Inhabited

/-- The kinds of a type. -/
inductive TypeKind
  | classType
  | interfaceType
  | structType
  | enumType
  | delegateType
  deriving Repr, DecidableEq, Inhabited

/-- The kinds of a member of a type. -/
inductive MemberKind
  | method
  | property
  | field
  | event
  | enumMember
  | constructor
  | destructor
  | indexer
  | operator
  deriving Repr, DecidableEq, Inhabited

/-- The kind of an element. -/
inductive Kind
  | space
  | type (kind : TypeKind)
  | member (kind : MemberKind)
  | other
  deriving Repr, DecidableEq, Inhabited

namespace TypeKind

/-- The name of a kind of type. -/
def name : TypeKind → String
  | classType => "Class"
  | interfaceType => "Interface"
  | structType => "Struct"
  | enumType => "Enum"
  | delegateType => "Delegate"

end TypeKind

namespace MemberKind

/-- The name of a kind of member. -/
def name : MemberKind → String
  | method => "Method"
  | property => "Property"
  | field => "Field"
  | event => "Event"
  | enumMember => "EnumMember"
  | constructor => "Constructor"
  | destructor => "Destructor"
  | indexer => "Indexer"
  | operator => "Operator"

end MemberKind

namespace Kind

/-- The name of a kind, which records and the index store. -/
def name : Kind → String
  | space => "Namespace"
  | type k => k.name
  | member k => k.name
  | other => "Other"

/-- All kinds, in the order in which they are listed to a user. -/
def all : List Kind := [
  .space, .type .classType, .type .interfaceType, .type .structType, .type .enumType,
  .member .method, .member .property, .member .field, .member .event, .type .delegateType,
  .member .enumMember, .member .constructor, .member .destructor, .member .indexer,
  .member .operator, .other]

/-- The names of all kinds, in alphabetical order. -/
def sortedNames : List String :=
  (all.map name).mergeSort (· ≤ ·)

/-- The kind with a name. -/
def ofName? (name : String) : Option Kind :=
  all.find? (·.name = name)

/-- The variant that carries a kind. -/
def variant : Kind → Variant
  | space => .space
  | type _ => .type
  | member _ => .member
  | other => .asset

/-- The name of a kind as a constant: capitals, with a low line between words. -/
def constantName (k : Kind) : String :=
  match k.name.toList with
  | [] => ""
  | c :: rest => String.ofList (c.toUpper :: rest.flatMap fun d =>
      if d.isUpper then ['_', d] else [d.toUpper])

end Kind

namespace Variant

/-- The name of a variant. -/
def name : Variant → String
  | space => "NamespaceElement"
  | type => "TypeElement"
  | member => "MemberElement"
  | asset => "AssetElement"

/-- The variant with a name. -/
def ofName? (name : String) : Option Variant :=
  [space, type, member, asset].find? (·.name = name)

/-- The names of the kinds that a variant carries, in alphabetical order. -/
def kindNames (v : Variant) : List String :=
  ((Kind.all.filter (·.variant = v)).map Kind.name).mergeSort (· ≤ ·)

end Variant

end CodeCatalog
