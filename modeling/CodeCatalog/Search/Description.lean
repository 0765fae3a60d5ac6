/-
What another program may have left in the folder of an index: the description of an index, and the
list of the files that belong to it.

A description is a JSON object with the segments of an index, its fields in order, and the number of
its last operation. What an object has besides is passed over; options that it lacks have their
usual values. A refusal quotes a text that describes no index, and so counts as a report of a lock
if the text mentions one. Every description that an index writes of itself does: one of its options
is the size of a block. So a description with something behind it is taken for a lock.
-/
import CodeCatalog.Json.Reader
import CodeCatalog.Search.Document
import CodeCatalog.Store.Basic

set_option autoImplicit false

namespace CodeCatalog.Search

open Json

/-! ## Reading options -/

/-- A flag under a key, false if there is none. -/
def flagUnder? (fields : Fields) (key : String) (otherwise : Bool := false) : Option Bool :=
  match fields.get? key with
  | none => some otherwise
  | some (.bool b) => some b
  | some _ => none

/-- A whole number under a key, from zero up to a bound. -/
def countUnder? (fields : Fields) (key : String) (most : Int) : Option Nat :=
  match fields.get? key with
  | some (.int n) => if 0 ≤ n && n ≤ most then some n.toNat else none
  | _ => none

/-- A text under a key. -/
def textUnder? (fields : Fields) (key : String) (otherwise : Option String := none) :
    Option String :=
  match fields.get? key with
  | none => otherwise
  | some (.text s) => some s
  | some _ => none

/-! ## Fields -/

/-- How the words of a text are indexed. -/
structure WordForm where
  record : String := "basic"
  hasLengths : Bool := true
  splitter : String := "default"
  deriving Repr, DecidableEq

/-- How the values of a field are kept. -/
inductive ValueForm
  | text (words : Option WordForm) (isStored : Bool)
  | number (kind : String) (isIndexed isStored : Bool)
  /-- A form that no field of a catalogue's index has. -/
  | other (kind : String)
  deriving Repr, DecidableEq

/-- A field of an index. -/
structure FieldForm where
  name : String
  form : ValueForm
  deriving Repr, DecidableEq

/-- The fields of a catalogue's index: values that are found as a whole, texts that are found by
their words, and the line number. -/
def ownFields : List FieldForm :=
  let texts := fun (splitter : String) (fs : List DocField) =>
    fs.map fun f => FieldForm.mk f.label (.text (some ⟨"position", true, splitter⟩) true)
  texts "raw" [.id, .fullName, .elementType, .parentId, .accessModifier, .returnType, .filePath,
      .contentHash] ++
    texts "default" [.name, .modifiers, .documentation, .parameters] ++
    [⟨DocField.lineNumber.label, .number "i64" true true⟩]

/-- The kinds of numbers. -/
def numberKinds : List String := ["u64", "i64", "f64", "bool"]

/-- The kinds of other values. -/
def otherKinds : List String := ["date", "facet", "bytes", "json_object", "ip_addr"]

/-- How much an index keeps of where words are. -/
def recordNames : List String := ["basic", "freq", "position"]

/-- How words are indexed, as JSON writes it; null stands for not at all. -/
def wordsOf? : Option Value → Option (Option WordForm)
  | none => some none
  | some .null => some none
  | some (.object fields) => do
    let record ← textUnder? fields "record" (some "basic")
    if !recordNames.contains record then none
    return some {
      record
      hasLengths := ← flagUnder? fields "fieldnorms" true
      splitter := ← textUnder? fields "tokenizer" (some "default") }
  | some _ => none

/-- How values are kept, as JSON writes it with the name of a kind. Fast access to values, and
values that are made to fit, are forms that no field of a catalogue's index has. -/
def valueForm? (kind : String) (options : Fields) : Option ValueForm := do
  let isFast := ← flagUnder? options "fast"
  let isMade := ← flagUnder? options "coerce"
  let own ← if kind = "text" then
      pure (ValueForm.text (← wordsOf? (options.get? "indexing")) (← flagUnder? options "stored"))
    else if numberKinds.contains kind then
      match options.get? "indexed", options.get? "stored" with
      | some (.bool i), some (.bool s) => some (.number kind i s)
      | _, _ => none
    else if otherKinds.contains kind then some (.other kind)
    else none
  return if isFast || isMade then .other kind else own

/-- A field, as JSON writes it. -/
def FieldForm.ofJson? : Value → Option FieldForm
  | .object fields => do
    let name ← textUnder? fields "name"
    let kind ← textUnder? fields "type"
    match Fields.get? fields "options" with
    | some (.object options) => return { name, form := ← valueForm? kind options }
    | _ => none
  | _ => none

/-! ## Descriptions -/

/-- The description of an index. -/
structure Description where
  fields : List FieldForm
  /-- How many segments hold its documents. -/
  segments : Nat
  deriving Repr, DecidableEq

/-- The largest count of documents in a segment. -/
def maxSegmentSize : Int := 4294967295

/-- Whether JSON writes a segment. -/
def isSegment : Value → Bool
  | .object fields =>
    (textUnder? fields "segment_id").isSome && (countUnder? fields "max_doc" maxSegmentSize).isSome
  | _ => false

/-- Whether JSON writes the settings of an index; without any, the usual ones hold. -/
def isSettings : Option Value → Bool
  | none => true
  | some (.object fields) =>
    (textUnder? fields "docstore_compression" (some "lz4")).isSome &&
      (match Fields.get? fields "docstore_blocksize" with
        | none => true
        | some _ => (countUnder? fields "docstore_blocksize" maxWord).isSome)
  | some _ => false

namespace Description

/-- The description that JSON writes. -/
def ofJson? : Value → Option Description
  | .object fields =>
    match Fields.get? fields "segments", Fields.get? fields "schema",
        countUnder? fields "opstamp" maxWord with
    | some (.list segments), some (.list forms), some _ => do
      if !(segments.all isSegment && isSettings (Fields.get? fields "index_settings")) then none
      return { fields := ← forms.mapM FieldForm.ofJson?, segments := segments.length }
    | _, _, _ => none
  | _ => none

end Description

/-! ## Files -/

/-- Why an index cannot be opened, and whether the refusal mentions a lock. -/
structure Obstacle where
  reason : String
  isLocked : Bool := false
  deriving Repr, DecidableEq

/-- Whether a text holds the word "lock" in any case. -/
def mentionsLock (s : String) : Bool :=
  Store.isInside "lock".toList (Text.lowerChars s.toList)

/-- The settings that an index describes itself with: how its documents are packed, and the size of a
block of them. -/
def usualSettings : Fields :=
  [("docstore_compression", .text "lz4"), ("docstore_blocksize", .int 16384)]

/-- What keeps an index from being opened on a description that another program wrote, if anything
does. -/
def stateObstacle? (bytes : ByteArray) : Option Obstacle :=
  match String.fromUTF8? bytes with
  | none => some { reason := "The description is no text." }
  | some s =>
    match (Json.read s).toOption.bind Description.ofJson? with
    | none => some { reason := "The text describes no index: " ++ s, isLocked := mentionsLock s }
    | some d =>
      if d.fields ≠ ownFields then
        some { reason := "An index exists but the schema does not match." }
      else if d.segments ≠ 0 then some { reason := "The segments are missing." }
      else none

/-- What keeps an index from being opened with a list of its files, if anything does. A text in
place of the list is quoted. -/
def listObstacle? (bytes : ByteArray) : Option Obstacle :=
  match (String.fromUTF8? bytes).bind fun s => (Json.read s).toOption with
  | some (.list items) =>
    if items.all fun v => v.kindName = "str" then none else some { reason := "No list of files." }
  | some (.text s) => some { reason := "No list of files: " ++ s, isLocked := mentionsLock s }
  | _ => some { reason := "No list of files." }

end CodeCatalog.Search
