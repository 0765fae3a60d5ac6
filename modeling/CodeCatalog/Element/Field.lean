/-
The fields that an element record may have, with the type of value that each one takes.

Records list the kind first, then the fields that all variants share, then those of the variant.
-/
import CodeCatalog.Element.Kind
import CodeCatalog.Json.Value

set_option autoImplicit false

namespace CodeCatalog

open Json

/-- What a field of a record may hold. -/
inductive FieldType
  | text
  | optionalText
  | whole
  | flag
  | texts
  /-- Texts with a list of texts each. -/
  | textTable
  /-- A location or parameters, which have fields of their own. -/
  | nested
  deriving Repr, DecidableEq, Inhabited

namespace FieldType

/-- The name of a type of field. -/
def name : FieldType → String
  | text => "str"
  | optionalText => "str | None"
  | whole => "int"
  | flag => "bool"
  | texts => "list[str]"
  | textTable => "dict[str, list[str]]"
  | nested => ""

/-- Whether a value is a text. -/
def isText : Value → Bool
  | .text _ => true
  | _ => false

/-- Whether a value is a list of texts. -/
def isTexts : Value → Bool
  | .list items => items.all isText
  | _ => false

/-- Whether a field of the type may hold the value. Nested values are checked on their own. -/
def admits : FieldType → Value → Bool
  | text, .text _ => true
  | optionalText, .null => true
  | optionalText, .text _ => true
  | whole, .int _ => true
  | flag, .bool _ => true
  | texts, v => isTexts v
  | textTable, .object fields => fields.all (isTexts ·.2)
  | nested, _ => true
  | _, _ => false

end FieldType

/-- Names of fields with their types, in the order of a record. -/
abbrev FieldTypes := List (String × FieldType)

/-- The fields of a location. -/
def locationFields : FieldTypes := [
  ("file_path", .text), ("start_line", .whole), ("start_column", .whole), ("end_line", .whole),
  ("end_column", .whole)]

/-- The fields of a parameter. -/
def parameterFields : FieldTypes := [
  ("name", .text), ("type_name", .text), ("has_default_value", .flag),
  ("default_value", .optionalText), ("modifier", .text)]

/-- The fields of every element, without its kind. -/
def sharedFields : FieldTypes := [
  ("id", .text), ("name", .text), ("full_name", .text), ("location", .nested),
  ("documentation", .text), ("access_modifier", .text), ("modifiers", .texts),
  ("content_hash", .text), ("version", .whole), ("parent_id", .optionalText)]

/-- The fields that a variant adds. -/
def Variant.ownFields : Variant → FieldTypes
  | .space => [("type_ids", .texts), ("child_namespace_ids", .texts)]
  | .type => [
    ("base_type_id", .optionalText), ("implemented_interface_ids", .texts), ("member_ids", .texts),
    ("nested_type_ids", .texts), ("generic_parameters", .texts),
    ("generic_constraints", .textTable), ("is_abstract", .flag), ("is_static", .flag),
    ("is_sealed", .flag), ("is_partial", .flag)]
  | .member => [
    ("type_name", .text), ("parameters", .nested), ("is_virtual", .flag), ("is_abstract", .flag),
    ("is_static", .flag), ("is_override", .flag), ("is_async", .flag), ("is_extension", .flag),
    ("generic_parameters", .texts), ("generic_constraints", .textTable)]
  | .asset => []

/-- All fields of a variant but the kind. -/
def Variant.fields (v : Variant) : FieldTypes :=
  sharedFields ++ v.ownFields

/-- The first field that holds a value its type does not admit, with the type and the value. -/
def wrongField? (types : FieldTypes) (fields : Fields) : Option (String × FieldType × Value) :=
  types.findSome? fun (name, type) =>
    match fields.get? name with
    | some v => if type.admits v then none else some (name, type, v)
    | none => none

/-- The first field whose name is not among the types. -/
def unknownField? (types : FieldTypes) (fields : Fields) : Option String :=
  (fields.find? fun (name, _) => !types.any (·.1 = name)).map (·.1)

end CodeCatalog
