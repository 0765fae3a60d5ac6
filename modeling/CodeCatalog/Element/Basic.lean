/-
Catalogued elements: a namespace, a type, a member of a type, or a project file that is no code.

An element holds the fields that all variants share and a payload that fits its kind. Names and
types are opaque texts; nothing here looks behind them.
-/
import CodeCatalog.Element.Kind
import CodeCatalog.Json.Value

set_option autoImplicit false

namespace CodeCatalog

/-- Where an element stands in its source file. -/
structure Location where
  filePath : String := ""
  startLine : Int := 0
  startColumn : Int := 0
  endLine : Int := 0
  endColumn : Int := 0
  deriving Repr, DecidableEq, Inhabited

/-- A parameter of a method, an indexer or a constructor. -/
structure Parameter where
  name : String := ""
  typeName : String := ""
  hasDefaultValue : Bool := false
  defaultValue : Option String := none
  modifier : String := ""
  deriving Repr, DecidableEq, Inhabited

/-- Parameters as text: the type and the name of each, all separated by blanks. -/
def formatParameters (ps : List Parameter) : String :=
  " ".intercalate (ps.map fun p => p.typeName ++ " " ++ p.name)

/-- Constraints on generic parameters, by the name of the parameter. -/
abbrev Constraints := List (String × List String)

/-- The fields of every element. -/
structure Shared where
  id : String
  name : String := ""
  fullName : String := ""
  location : Location := {}
  documentation : String := ""
  accessModifier : String := ""
  modifiers : List String := []
  contentHash : String := ""
  version : Int := 1
  parentId : Option String := none
  deriving Repr, DecidableEq, Inhabited

/-- What a namespace adds. -/
structure SpaceInfo where
  typeIds : List String := []
  childSpaceIds : List String := []
  deriving Repr, DecidableEq, Inhabited

/-- What a type adds. The base type is a name and not looked up. -/
structure TypeInfo where
  baseTypeId : Option String := none
  implementedInterfaceIds : List String := []
  memberIds : List String := []
  nestedTypeIds : List String := []
  genericParameters : List String := []
  genericConstraints : Constraints := []
  isAbstract : Bool := false
  isStatic : Bool := false
  isSealed : Bool := false
  isPartial : Bool := false
  deriving Repr, DecidableEq, Inhabited

/-- What a member adds. The type name is the return type of a method and the type of a value
otherwise. -/
structure MemberInfo where
  typeName : String := ""
  parameters : List Parameter := []
  isVirtual : Bool := false
  isAbstract : Bool := false
  isStatic : Bool := false
  isOverride : Bool := false
  isAsync : Bool := false
  isExtension : Bool := false
  genericParameters : List String := []
  genericConstraints : Constraints := []
  deriving Repr, DecidableEq, Inhabited

/-- The part of an element that depends on its kind. -/
inductive Payload
  | space (info : SpaceInfo)
  | type (kind : TypeKind) (info : TypeInfo)
  | member (kind : MemberKind) (info : MemberInfo)
  | asset
  /-- An element of a variant that is none of the four, which may have any value in place of its
  location. The store takes it; the index does not. -/
  | foreign (variantName : String) (kind : Kind) (inPlace : Option Json.Value)
  deriving Repr, DecidableEq, Inhabited

/-- A catalogued element. -/
structure Element extends Shared where
  payload : Payload
  deriving Repr, DecidableEq, Inhabited

namespace Element

/-- The kind of an element. -/
def kind (e : Element) : Kind :=
  match e.payload with
  | .space _ => .space
  | .type k _ => .type k
  | .member k _ => .member k
  | .asset => .other
  | .foreign _ k _ => k

/-- The name of an element's variant. -/
def variantName (e : Element) : String :=
  match e.payload with
  | .foreign name _ _ => name
  | _ => e.kind.variant.name

/-- The return type of a member that names one. -/
def returnType? (e : Element) : Option String :=
  match e.payload with
  | .member _ info => if info.typeName = "" then none else some info.typeName
  | _ => none

/-- Constraints in the order of their parameters' names. -/
def sortConstraints (cs : Constraints) : Constraints :=
  cs.mergeSort (·.1 ≤ ·.1)

/-- The element with its constraints in the order of names. -/
def normalize (e : Element) : Element :=
  { e with
    payload := match e.payload with
      | .type k i => .type k { i with genericConstraints := sortConstraints i.genericConstraints }
      | .member k i =>
        .member k { i with genericConstraints := sortConstraints i.genericConstraints }
      | p => p }

/-- Whether two elements agree in every field, the order of constraints aside. -/
def same (a b : Element) : Bool :=
  a.normalize = b.normalize

end Element

end CodeCatalog
