/-
Elements assembled field by field.

A draft is an element of a chosen form whose fields hold arbitrary values; only the names of the
fields and the kind are checked. It is how an element is built without a record, and how one element
is replaced by a copy with some fields changed.
-/
import CodeCatalog.Element.Record

set_option autoImplicit false

namespace CodeCatalog

open Json

/-- What a draft is assembled as: a variant, or the plain element that carries no kind. -/
inductive Form
  | variant (v : Variant)
  | plain
  deriving Repr, DecidableEq

namespace Form

/-- The name of a form. -/
def name : Form → String
  | variant v => v.name
  | plain => "Element"

/-- The form with a name. -/
def ofName? (s : String) : Option Form :=
  if s = "Element" then some plain else (Variant.ofName? s).map variant

/-- The fields of a form, without its kind. -/
def fields : Form → FieldTypes
  | variant v => v.fields
  | plain => sharedFields

/-- The names of the kinds that a form carries. -/
def kindNames : Form → List String
  | variant v => v.kindNames
  | plain => []

/-- Whether the kind must not be given: a namespace has no other. -/
def hasFixedKind : Form → Bool
  | variant .space => true
  | _ => false

/-- The kind of a form that may be left out. -/
def defaultKind? : Form → Option Kind
  | variant .space => some .space
  | variant .asset => some .other
  | _ => none

end Form

/-- A form with a value for each of its fields. -/
structure Draft where
  form : Form
  kind : Kind
  fields : Fields
  deriving Repr, DecidableEq

namespace Draft

/-- The value of a field that is not given. -/
def defaultValue (freshId name : String) : FieldType → Value
  | .text => .text (if name = "id" then freshId else "")
  | .optionalText => .null
  | .whole => .int (if name = "version" then 1 else 0)
  | .flag => .bool false
  | .texts => .list []
  | .textTable => .object []
  | .nested => if name = "location" then Location.toRecord {} else .list []

/-- All fields of some types, with defaults for those that are not given. -/
def complete (freshId : String) (types : FieldTypes) (given : Fields) : Fields :=
  types.map fun (name, type) => (name, (given.get? name).getD (defaultValue freshId name type))

/-- Fail on an argument that the callee does not take. -/
def checkArguments (callee : String) (types : FieldTypes) (given : Fields) : Except Failure Unit :=
  match unknownField? types given with
  | some name => .error (.fault (.unexpectedArgument (callee ++ ".__init__") name))
  | none => .ok ()

/-- A location from loose fields, with defaults for those that are not given. -/
def location (given : Fields) : Except Failure Value := do
  checkArguments "SourceLocation" locationFields given
  return .object (complete "" locationFields given)

/-- A parameter from loose fields, with defaults for those that are not given. -/
def parameter (given : Fields) : Except Failure Value := do
  checkArguments "ParameterInfo" parameterFields given
  return .object (complete "" parameterFields given)

/-- The kind that a value names, if the form carries it. -/
def carriedKind (form : Form) (value : Value) : Except Failure Kind :=
  let refused := Failure.catalog (.kindMismatch form.name value form.kindNames)
  match value with
  | .text s =>
    match Kind.ofName? s with
    | some k => if form.kindNames.contains k.name then .ok k else .error refused
    | none => .error refused
  | _ => .error refused

/-- Assemble a form from arguments. -/
def assemble (form : Form) (freshId : String) (given : Fields) : Except Failure Draft := do
  let takesKind : FieldTypes := if form.hasFixedKind then [] else [("kind", .nested)]
  checkArguments form.name (takesKind ++ form.fields) given
  let kind ← match given.get? "kind" with
    | some v => carriedKind form v
    | none => match form.defaultKind? with
      | some k => .ok k
      | none =>
        .error (.fault (.missingArguments (form.name ++ ".__init__") "keyword-only" ["kind"]))
  return { form, kind, fields := complete freshId form.fields given }

/-- Where messages about a call as a whole find the callee. -/
def qualified (callee : String) : String :=
  "codeindexer.index.models." ++ callee

/-- What is assembled from a value, which has to hold loose fields. -/
def fromLoose (callee : String) (make : Fields → Except Failure Value) :
    Value → Except Failure Value
  | .object fields => make fields
  | v => .error (.fault (.notAMapping (qualified callee) v))

/-- What a value holds one after another: the items of a list, the characters of a text, the keys of
an object. -/
def members : Value → Except Failure (List Value)
  | .list items => .ok items
  | .text s => .ok (s.toList.map fun c => .text c.toString)
  | .object fields => .ok (fields.map fun f => .text f.1)
  | v => .error (.fault (.notIterable v))

/-- An argument, with a location or parameters assembled from their loose fields. -/
def nestedArgument : String × Value → Except Failure (String × Value)
  | ("location", v) => do return ("location", ← fromLoose "SourceLocation" location v)
  | ("parameters", v) => do
    let ps ← (← members v).mapM (fromLoose "ParameterInfo" parameter)
    return ("parameters", .list ps)
  | argument => .ok argument

/-- Assemble a form from arguments whose location and parameters are loose fields. -/
def assembleLoose (form : Form) (freshId : String) (given : Fields) : Except Failure Draft := do
  assemble form freshId (← given.mapM nestedArgument)

/-- A draft as a record. -/
def toRecord (d : Draft) : Value :=
  .object (("kind", .text d.kind.name) :: d.fields)

/-- An element taken apart. -/
def ofElement (e : Element) : Draft where
  form := .variant e.kind.variant
  kind := e.kind
  fields := Element.sharedRecord e.toShared ++ Element.payloadRecord e.payload

/-- A copy of the draft with some fields changed. A fixed kind must not be among them. -/
def replace (d : Draft) (changes : Fields) : Except Failure Draft :=
  if d.form.hasFixedKind && (changes.get? "kind").isSome then .error (.fault .fixedKind)
  else
    let kind : Fields := if d.form.hasFixedKind then [] else [("kind", .text d.kind.name)]
    assemble d.form "" (Fields.union (kind ++ d.fields) changes)

end Draft

/-- An element of a variant that is none of the four, from arguments. It may carry every kind. A
location is taken as it is. -/
def Element.foreign (variantName freshId : String) (given : Fields) : Except Failure Element := do
  Draft.checkArguments "Element" (("kind", .nested) :: sharedFields) given
  match given.get? "kind" with
  | none => .error (.fault (.missingArguments "Element.__init__" "keyword-only" ["kind"]))
  | some v =>
    match kindOf v with
    | .error _ => .error (.catalog (.kindMismatch variantName v Kind.sortedNames))
    | .ok kind => return {
        toShared := sharedOf freshId {} given
        payload := .foreign variantName kind (given.get? "location") }

end CodeCatalog
