/-
Elements as records.

`Element.toRecord` lists every field in a fixed order. `Element.ofRecord` reads a record back: it
needs a known kind, refuses values of the wrong type and fields that the variant does not have, and
fills the fields that are absent with their defaults. An absent id is replaced by one that the
caller supplies.
-/
import CodeCatalog.Element.Basic
import CodeCatalog.Failure

set_option autoImplicit false

namespace CodeCatalog

open Json

/-! ## Writing -/

/-- A text that may be absent. -/
def Json.Value.optionalText : Option String → Value
  | none => .null
  | some s => .text s

/-- A list of texts. -/
def Json.Value.texts (ss : List String) : Value :=
  .list (ss.map .text)

/-- A location as a record. -/
def Location.toRecord (l : Location) : Value :=
  .object [("file_path", .text l.filePath), ("start_line", .int l.startLine),
    ("start_column", .int l.startColumn), ("end_line", .int l.endLine),
    ("end_column", .int l.endColumn)]

/-- A parameter as a record. -/
def Parameter.toRecord (p : Parameter) : Value :=
  .object [("name", .text p.name), ("type_name", .text p.typeName),
    ("has_default_value", .bool p.hasDefaultValue),
    ("default_value", .optionalText p.defaultValue), ("modifier", .text p.modifier)]

/-- Constraints as a record. -/
def Constraints.toRecord (cs : Constraints) : Value :=
  .object (cs.map fun (name, bounds) => (name, .texts bounds))

namespace Element

/-- The fields that all variants share. -/
def sharedRecord (s : Shared) : Fields := [
  ("id", .text s.id), ("name", .text s.name), ("full_name", .text s.fullName),
  ("location", s.location.toRecord), ("documentation", .text s.documentation),
  ("access_modifier", .text s.accessModifier), ("modifiers", .texts s.modifiers),
  ("content_hash", .text s.contentHash), ("version", .int s.version),
  ("parent_id", .optionalText s.parentId)]

/-- The fields of the payload. -/
def payloadRecord : Payload → Fields
  | .space i => [
    ("type_ids", .texts i.typeIds), ("child_namespace_ids", .texts i.childSpaceIds)]
  | .type _ i => [
    ("base_type_id", .optionalText i.baseTypeId),
    ("implemented_interface_ids", .texts i.implementedInterfaceIds),
    ("member_ids", .texts i.memberIds), ("nested_type_ids", .texts i.nestedTypeIds),
    ("generic_parameters", .texts i.genericParameters),
    ("generic_constraints", Constraints.toRecord i.genericConstraints),
    ("is_abstract", .bool i.isAbstract), ("is_static", .bool i.isStatic),
    ("is_sealed", .bool i.isSealed), ("is_partial", .bool i.isPartial)]
  | .member _ i => [
    ("type_name", .text i.typeName), ("parameters", .list (i.parameters.map (·.toRecord))),
    ("is_virtual", .bool i.isVirtual), ("is_abstract", .bool i.isAbstract),
    ("is_static", .bool i.isStatic), ("is_override", .bool i.isOverride),
    ("is_async", .bool i.isAsync), ("is_extension", .bool i.isExtension),
    ("generic_parameters", .texts i.genericParameters),
    ("generic_constraints", Constraints.toRecord i.genericConstraints)]
  | .asset => []
  | .foreign _ _ _ => []

/-- An element as a record: its kind, the shared fields, then those of its variant. -/
def toRecord (e : Element) : Value :=
  let shared := match e.payload with
    | .foreign _ _ (some v) => (sharedRecord e.toShared).put "location" v
    | _ => sharedRecord e.toShared
  .object (("kind", .text e.kind.name) :: (shared ++ payloadRecord e.payload))

end Element

/-! ## Reading fields

Each reader takes the value under a key, and the default where the key is absent. -/

namespace Json.Fields

/-- A text. -/
def text (fields : Fields) (key : String) (default : String := "") : String :=
  match fields.get? key with
  | some (.text s) => s
  | _ => default

/-- A text that may be absent. -/
def optionalText (fields : Fields) (key : String) : Option String :=
  match fields.get? key with
  | some (.text s) => some s
  | _ => none

/-- A whole number. -/
def whole (fields : Fields) (key : String) (default : Int := 0) : Int :=
  match fields.get? key with
  | some (.int n) => n
  | _ => default

/-- A truth value. -/
def flag (fields : Fields) (key : String) : Bool :=
  match fields.get? key with
  | some (.bool b) => b
  | _ => false

/-- The texts of a list. -/
def textItems : Value → List String
  | .list items => items.filterMap fun
    | .text s => some s
    | _ => none
  | _ => []

/-- A list of texts. -/
def texts (fields : Fields) (key : String) : List String :=
  match fields.get? key with
  | some v => textItems v
  | none => []

/-- A table of lists of texts. -/
def textTable (fields : Fields) (key : String) : Constraints :=
  match fields.get? key with
  | some (.object entries) => entries.map fun (name, v) => (name, textItems v)
  | _ => []

end Json.Fields

/-- A location from its fields. -/
def Location.ofFields (fields : Fields) : Location where
  filePath := fields.text "file_path"
  startLine := fields.whole "start_line"
  startColumn := fields.whole "start_column"
  endLine := fields.whole "end_line"
  endColumn := fields.whole "end_column"

/-- A parameter from its fields. -/
def Parameter.ofFields (fields : Fields) : Parameter where
  name := fields.text "name"
  typeName := fields.text "type_name"
  hasDefaultValue := fields.flag "has_default_value"
  defaultValue := fields.optionalText "default_value"
  modifier := fields.text "modifier"

namespace Element

/-- The shared fields of a record. -/
def sharedOf (freshId : String) (location : Location) (fields : Fields) : Shared where
  id := fields.text "id" freshId
  name := fields.text "name"
  fullName := fields.text "full_name"
  location := location
  documentation := fields.text "documentation"
  accessModifier := fields.text "access_modifier"
  modifiers := fields.texts "modifiers"
  contentHash := fields.text "content_hash"
  version := fields.whole "version" 1
  parentId := fields.optionalText "parent_id"

/-- The payload of a record of a kind. -/
def payloadOf (kind : Kind) (parameters : List Parameter) (fields : Fields) : Payload :=
  match kind with
  | .space => .space {
      typeIds := fields.texts "type_ids"
      childSpaceIds := fields.texts "child_namespace_ids" }
  | .type k => .type k {
      baseTypeId := fields.optionalText "base_type_id"
      implementedInterfaceIds := fields.texts "implemented_interface_ids"
      memberIds := fields.texts "member_ids"
      nestedTypeIds := fields.texts "nested_type_ids"
      genericParameters := fields.texts "generic_parameters"
      genericConstraints := fields.textTable "generic_constraints"
      isAbstract := fields.flag "is_abstract"
      isStatic := fields.flag "is_static"
      isSealed := fields.flag "is_sealed"
      isPartial := fields.flag "is_partial" }
  | .member k => .member k {
      typeName := fields.text "type_name"
      parameters := parameters
      isVirtual := fields.flag "is_virtual"
      isAbstract := fields.flag "is_abstract"
      isStatic := fields.flag "is_static"
      isOverride := fields.flag "is_override"
      isAsync := fields.flag "is_async"
      isExtension := fields.flag "is_extension"
      genericParameters := fields.texts "generic_parameters"
      genericConstraints := fields.textTable "generic_constraints" }
  | .other => .asset

/-! ## Reading records -/

/-- Fail unless every field has a value of its type. -/
def checkTypes (kind : Kind) (types : FieldTypes) (fields : Fields) : Except RecordFault Unit :=
  match wrongField? types fields with
  | some (name, type, v) => .error (.wrongType kind name type v)
  | none => .ok ()

/-- Fail on a field that the owner does not have. -/
def checkNames (kind : Kind) (owner : String) (types : FieldTypes) (fields : Fields) :
    Except RecordFault Unit :=
  match unknownField? types fields with
  | some name => .error (.unknownField kind owner name)
  | none => .ok ()

/-- The location of a record. -/
def readLocation (kind : Kind) (fields : Fields) : Except RecordFault Location :=
  match fields.get? "location" with
  | none => .ok {}
  | some (.object l) => do
    checkTypes kind locationFields l
    checkNames kind "SourceLocation" locationFields l
    return .ofFields l
  | some _ => .error (.badLocation kind)

/-- The fields of every item of a list of objects. -/
def objects? : Value → Option (List Fields)
  | .list items => items.mapM fun
    | .object fields => some fields
    | _ => none
  | _ => none

/-- The parameters of a record. The types of all are checked before the names of any. -/
def readParameters (kind : Kind) (fields : Fields) : Except RecordFault (List Parameter) :=
  match fields.get? "parameters" with
  | none => .ok []
  | some v =>
    if v.isNothing then .ok []
    else match objects? v with
      | none => .error (.badParameters kind)
      | some ps => do
        ps.forM (checkTypes kind parameterFields)
        ps.forM (checkNames kind "ParameterInfo" parameterFields)
        return ps.map .ofFields

/-- The kind of a record. -/
def readKind (record : Fields) : Except RecordFault Kind :=
  match record.get? "kind" with
  | none | some .null => .error .missingKind
  | some (.text s) =>
    match Kind.ofName? s with
    | some k => .ok k
    | none => .error (.unknownKind (.text s))
  | some v => .error (.unknownKind v)

/-- The element of a record's fields. -/
def ofFields (freshId : String) (record : Fields) : Except RecordFault Element := do
  let kind ← readKind record
  let fields := record.erase "kind"
  let types := kind.variant.fields
  checkTypes kind types fields
  let location ← readLocation kind fields
  let parameters ← readParameters kind fields
  checkNames kind kind.variant.name types fields
  return {
    toShared := sharedOf freshId location fields
    payload := payloadOf kind parameters fields }

/-- The element that a record describes. -/
def ofRecord (freshId : String) (record : Value) : Except CatalogError Element :=
  match record with
  | .object fields =>
    match ofFields freshId fields with
    | .ok e => .ok e
    | .error f => .error (.malformedRecord f)
  | _ => .error (.malformedRecord .notObject)

end Element

end CodeCatalog
