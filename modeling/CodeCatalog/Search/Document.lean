/-
Documents: the projection of an element that the search index keeps.

A document holds values under fields, in the order in which they were added; a field may come more
than once. Fields that an element lacks are left out instead of being stored empty, so a filter on
them never matches it.
-/
import CodeCatalog.Decimal.Word
import CodeCatalog.Element.Summary
import CodeCatalog.Search.Term

set_option autoImplicit false

namespace CodeCatalog.Search

/-- The fields of a document. -/
inductive DocField
  | id
  | name
  | fullName
  | elementType
  | parentId
  | accessModifier
  | modifiers
  | documentation
  | parameters
  | returnType
  | filePath
  | lineNumber
  | contentHash
  deriving Repr, DecidableEq, Inhabited

namespace DocField

/-- The name of a field in the index. -/
def label : DocField → String
  | id => "id"
  | name => "name"
  | fullName => "fullName"
  | elementType => "elementType"
  | parentId => "parentId"
  | accessModifier => "accessModifier"
  | modifiers => "modifiers"
  | documentation => "documentation"
  | parameters => "parameters"
  | returnType => "returnType"
  | filePath => "filePath"
  | lineNumber => "lineNumber"
  | contentHash => "contentHash"

/-- All fields. -/
def all : List DocField := [
  id, name, fullName, elementType, parentId, accessModifier, modifiers, documentation, parameters,
  returnType, filePath, lineNumber, contentHash]

/-- The field with a name. -/
def ofLabel? (s : String) : Option DocField :=
  all.find? (·.label = s)

end DocField

/-- A stored value. -/
inductive Stored
  | text (s : String)
  | whole (n : Int)
  deriving Repr, DecidableEq, Inhabited

/-- A stored value as a JSON value. -/
def Stored.toJson : Stored → Json.Value
  | text s => .text s
  | whole n => .int n

/-- A document of the index. -/
structure Document where
  fields : List (DocField × Stored) := []
  deriving Repr, DecidableEq, Inhabited

namespace Document

/-! ## Access -/

/-- The values of a field. -/
def values (d : Document) (f : DocField) : List Stored :=
  d.fields.filterMap fun (g, v) => if g = f then some v else none

/-- The texts of a field. -/
def texts (d : Document) (f : DocField) : List String :=
  (d.values f).filterMap fun
    | .text s => some s
    | .whole _ => none

/-- The first value of a field. -/
def first? (d : Document) (f : DocField) : Option Stored :=
  (d.values f).head?

/-- The first value of a field, if it is a text. -/
def text? (d : Document) (f : DocField) : Option String :=
  match d.first? f with
  | some (.text s) => some s
  | _ => none

/-! ## Building -/

/-- A field with a text, left out if the text is empty. -/
def unlessEmpty (f : DocField) (s : String) : List (DocField × Stored) :=
  if s = "" then [] else [(f, .text s)]

/-- The value to store for a JSON value: flags count as zero and one, and what cannot be stored is
passed over. -/
def storedOf : Json.Value → Except Fault (Option Stored)
  | .text s => .ok (some (.text s))
  | .bool b => .ok (some (.whole (if b then 1 else 0)))
  | .int n => if fitsLong n then .ok (some (.whole n)) else .error .wholeTooWide
  | _ => .ok none

/-- The values to store under the name of a field; a name that no field has is passed over. -/
def storedFields (label : String) (values : Json.Value) :
    Except Fault (List (DocField × Stored)) := do
  let stored ← (match values with
    | .list vs => vs
    | _ => []).mapM storedOf
  return match DocField.ofLabel? label with
    | some f => (stored.filterMap id).map fun v => (f, v)
    | none => []

/-- The document of a record of lists of values. -/
def ofRecord (record : Json.Fields) : Except Fault Document := do
  return ⟨(← record.mapM fun (label, values) => storedFields label values).flatten⟩

/-- A document as a record of lists of values. -/
def toRecord (d : Document) : Json.Value :=
  .object (DocField.all.filterMap fun f =>
    match d.values f with
    | [] => none
    | vs => some (f.label, .list (vs.map Stored.toJson)))

/-- The fields that every element has. -/
def commonFields (e : Element) : List (DocField × Stored) :=
  [(.id, .text e.id), (.name, .text e.name), (.fullName, .text e.fullName),
    (.elementType, .text e.kind.name), (.contentHash, .text e.contentHash),
    (.filePath, .text e.location.filePath), (.lineNumber, .whole e.location.startLine)]

/-- The fields that an element has if they are not empty. -/
def optionalFields (e : Element) : List (DocField × Stored) :=
  (match e.parentId with
    | none => []
    | some p => [(DocField.parentId, Stored.text p)]) ++
  unlessEmpty .accessModifier e.accessModifier ++
  (if e.modifiers.isEmpty then [] else [(.modifiers, .text (" ".intercalate e.modifiers))]) ++
  unlessEmpty .documentation e.documentation

/-- The fields of a payload; a foreign variant has no projection. -/
def payloadFields : Payload → Except Fault (List (DocField × Stored))
  | .member _ info =>
    .ok (unlessEmpty .returnType info.typeName ++
      if info.parameters.isEmpty then []
      else [(.parameters, .text (formatParameters info.parameters))])
  | .space _ => .ok []
  | .type _ _ => .ok []
  | .asset => .ok []
  | .foreign _ _ (some v) => .error (.noMember v "file_path")
  | .foreign name _ none => .error (.unsupportedVariant name)

/-- The document of an element. The line number must fit 64 bits. -/
def ofElement (e : Element) : Except Fault Document := do
  if fitsLong e.location.startLine then
    let own ← payloadFields e.payload
    return ⟨commonFields e ++ optionalFields e ++ own⟩
  else
    throw .wholeTooWide

/-! ## Reading back -/

/-- The kind that a document stores. -/
def kind (d : Document) : Except Fault Kind :=
  match d.first? .elementType with
  | none => .error (.notAKind .null)
  | some (.whole n) => .error (.notAKind (.int n))
  | some (.text s) =>
    match Kind.ofName? s with
    | some k => .ok k
    | none => .error (.notAKind (.text s))

/-- The line number that a document stores, zero if there is none. -/
def lineNumber (d : Document) : Except Fault Int :=
  match d.first? .lineNumber with
  | none => .ok 0
  | some (.whole n) => .ok n
  | some (.text s) =>
    match Text.readWhole s with
    | .ok n => .ok n
    | .error .malformed => .error (.badWhole s)
    | .error (.tooLong digits) => .error (.longWhole digits)

/-- The summary that a document stores. -/
def summary (d : Document) : Except Fault Summary := do
  let kind ← d.kind
  let line ← d.lineNumber
  return {
    id := (d.text? .id).getD ""
    name := (d.text? .name).getD ""
    fullName := (d.text? .fullName).getD ""
    kind := kind
    parentId := d.text? .parentId
    accessModifier := d.text? .accessModifier
    filePath := (d.text? .filePath).getD ""
    lineNumber := line
    returnType := d.text? .returnType
    contentHash := (d.text? .contentHash).getD "" }

/-- The first value of a field, null if there is none. -/
def firstValue (d : Document) (f : DocField) : Json.Value :=
  ((d.first? f).map Stored.toJson).getD .null

/-- The first value of a field, the empty text in place of what counts as nothing. -/
def firstOrEmpty (d : Document) (f : DocField) : Json.Value :=
  if (d.firstValue f).isNothing then .text "" else d.firstValue f

/-- The summary that a document stores, as a record. Nothing checks that texts stand where a summary
has texts; where they do, it is the record of `summary`. -/
def summaryRecord (d : Document) : Except Fault Json.Value := do
  let kind ← d.kind
  let line ← d.lineNumber
  return .object [("id", d.firstOrEmpty .id), ("name", d.firstOrEmpty .name),
    ("full_name", d.firstOrEmpty .fullName), ("kind", .text kind.name),
    ("parent_id", d.firstValue .parentId), ("access_modifier", d.firstValue .accessModifier),
    ("file_path", d.firstOrEmpty .filePath), ("line_number", .int line),
    ("return_type", d.firstValue .returnType), ("content_hash", d.firstOrEmpty .contentHash)]

/-! ## Terms -/

/-- Whole values of this many bytes and more are stored and not searchable. -/
def maxValueBytes : Nat := 65531

/-- The terms under which a document is found in a field: the words of a name, and whole values
elsewhere. -/
def terms (d : Document) (f : DocField) : List String :=
  match f with
  | .name => (d.texts .name).flatMap indexTerms
  | f => (d.texts f).filter (·.utf8ByteSize < maxValueBytes)

end Document

end CodeCatalog.Search
