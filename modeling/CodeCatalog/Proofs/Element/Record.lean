/-
Reading the record of an element: `Element.ofRecord freshId e.toRecord = .ok e`.

A record that was written lists its fields in the order of the types that it is checked against, and
each holds a value of its type (`Fits`). That alone settles both checks, for elements, locations and
parameters alike. The fields are then read by name, and as no name comes twice, what is found under
a name is what was written there.

What can be written at all is an element whose fields hold values of their types (`WellTyped`). Its
record nests no deeper than three, so it is also read back from its text.
-/
import CodeCatalog.Element.Record
import CodeCatalog.Proofs.Json.RoundTrip
import Mathlib.Tactic

set_option autoImplicit false

namespace CodeCatalog

open Json

/-! ## Records that fit their types

A record that is written in the order of its types passes both checks that the reader makes, the one
of the types and the one of the names. -/

/-- The fields of an object; nothing else has any. -/
def Json.Value.fields : Value → Fields
  | .object fields => fields
  | _ => []

/-- The fields are those of the types, in their order, each with a value that its type admits. -/
def Fits (fields : Fields) (types : FieldTypes) : Prop :=
  List.Forall₂ (fun f t => f.1 = t.1 ∧ t.2.admits f.2 = true) fields types

variable {fields : Fields} {types : FieldTypes} {key : String} {v : Value}

/-- A field that is found stands in the record. -/
theorem mem_of_get? (h : fields.get? key = some v) : (key, v) ∈ fields := by
  rw [Fields.get?, Option.map_eq_some_iff] at h
  obtain ⟨f, hf, rfl⟩ := h
  have hkey := List.find?_some hf
  rw [decide_eq_true_eq] at hkey
  rw [← hkey]
  exact List.mem_of_find?_eq_some hf

/-- A record that fits has the names of the types, in their order. -/
theorem Fits.keys (h : Fits fields types) : fields.map (·.1) = types.map (·.1) := by
  induction h with
  | nil => rfl
  | cons hf _ ih => rw [List.map_cons, List.map_cons, ih, hf.1]

/-- A field that fits is one of the types, with a value that the type admits. -/
theorem Fits.exists_type (h : Fits fields types) {f : String × Value} (hf : f ∈ fields) :
    ∃ t ∈ types, t.1 = f.1 ∧ t.2.admits f.2 = true := by
  induction h with
  | nil => exact absurd hf (List.not_mem_nil)
  | cons hhead _ ih =>
    rcases List.mem_cons.mp hf with rfl | hf
    · exact ⟨_, List.mem_cons_self, hhead.1.symm, hhead.2⟩
    · obtain ⟨t, ht, hkey, hadmits⟩ := ih hf
      exact ⟨t, List.mem_cons_of_mem _ ht, hkey, hadmits⟩

/-- No field of a record that fits has a value of a wrong type. -/
theorem Fits.wrongField? (h : Fits fields types) (hnodup : (types.map (·.1)).Nodup) :
    CodeCatalog.wrongField? types fields = none := by
  rw [CodeCatalog.wrongField?, List.findSome?_eq_none_iff]
  rintro ⟨name, type⟩ ht
  rcases hget : fields.get? name with _ | v
  · simp only [hget]
  · obtain ⟨t, ht', hkey, hadmits⟩ := h.exists_type (mem_of_get? hget)
    -- two types of one name are one, as no name comes twice
    have hsame : t = (name, type) := List.inj_on_of_nodup_map hnodup ht' ht hkey
    rw [hsame] at hadmits
    simp only [hget, hadmits, if_true]

/-- No field of a record that fits is unknown. -/
theorem Fits.unknownField? (h : Fits fields types) :
    CodeCatalog.unknownField? types fields = none := by
  rw [CodeCatalog.unknownField?, Option.map_eq_none_iff, List.find?_eq_none]
  rintro f hf
  obtain ⟨t, ht, hkey, -⟩ := h.exists_type hf
  simp only [Bool.not_eq_true', Bool.not_eq_false, List.any_eq_true, decide_eq_true_eq]
  exact ⟨t, ht, hkey⟩

namespace Element

theorem checkTypes_of_fits (kind : Kind) (h : Fits fields types)
    (hnodup : (types.map (·.1)).Nodup) : checkTypes kind types fields = .ok () := by
  rw [checkTypes, h.wrongField? hnodup]

theorem checkNames_of_fits (kind : Kind) (owner : String) (h : Fits fields types) :
    checkNames kind owner types fields = .ok () := by
  rw [checkNames, h.unknownField?]

end Element

/-! ## Well-typed elements

An element can be written if its payload is one of this program's own, its numbers can be read
again, and its constraints have their keys once. -/

/-- Whether a payload belongs to a variant that is none of the four. -/
def Payload.isForeign : Payload → Bool
  | .foreign .. => true
  | _ => false

/-- The constraints of a payload on its generic parameters. -/
def Payload.constraints : Payload → Constraints
  | .type _ i => i.genericConstraints
  | .member _ i => i.genericConstraints
  | _ => []

/-- The parameters of a payload. -/
def Payload.parameters : Payload → List Parameter
  | .member _ i => i.parameters
  | _ => []

/-- **An element of the four variants whose fields hold values of their types.** Texts and lists
have their types already; constraints are a table, so that no name comes twice, and whole numbers
are not too long. -/
structure Element.WellTyped (e : Element) : Prop where
  own : e.payload.isForeign = false
  table : (e.payload.constraints.map (·.1)).Nodup
  startLine : ReadableWhole e.location.startLine
  startColumn : ReadableWhole e.location.startColumn
  endLine : ReadableWhole e.location.endLine
  endColumn : ReadableWhole e.location.endColumn
  version : ReadableWhole e.version

/-! ## Leaves

Single values, and lists and tables of texts: each is written as a value that its type admits, and
read back as it was. -/

/-- The texts of a list that was written of texts. -/
theorem textItems_texts (ss : List String) : Fields.textItems (.texts ss) = ss := by
  induction ss with
  | nil => rfl
  | cons s ss ih => exact congrArg (s :: ·) ih

theorem isTexts_texts (ss : List String) : FieldType.isTexts (.texts ss) = true := by
  simp [Value.texts, FieldType.isTexts, FieldType.isText]

theorem admits_optionalText (s : Option String) :
    FieldType.admits .optionalText (.optionalText s) = true := by
  cases s <;> rfl

theorem admits_texts (ss : List String) : FieldType.admits .texts (.texts ss) = true :=
  isTexts_texts ss

theorem admits_textTable (cs : Constraints) :
    FieldType.admits .textTable (Constraints.toRecord cs) = true := by
  simp [FieldType.admits, Constraints.toRecord, isTexts_texts]

/-! ## Locations, parameters and constraints

The nested parts of a record are records themselves. Each is written to fit its own types, and its
fields give it back. -/

theorem location_fits (l : Location) : Fits l.toRecord.fields locationFields := by
  simp [Fits, Location.toRecord, Value.fields, locationFields, FieldType.admits]

theorem location_ofFields (l : Location) : Location.ofFields l.toRecord.fields = l := by
  simp [Location.ofFields, Location.toRecord, Value.fields, Fields.text, Fields.whole, Fields.get?]

/-- The record of a parameter fits the types of its fields. -/
theorem parameter_fits (p : Parameter) : Fits p.toRecord.fields parameterFields := by
  -- what is optional is null or a text, so its type is settled before the record is taken apart
  have hdefault := admits_optionalText p.defaultValue
  simp [Fits, Parameter.toRecord, Value.fields, parameterFields, hdefault]
  simp [FieldType.admits]

/-- A parameter is read back from the fields of its record. -/
theorem parameter_ofFields (p : Parameter) : Parameter.ofFields p.toRecord.fields = p := by
  rcases p with ⟨name, typeName, hasDefaultValue, _ | s, modifier⟩ <;>
  simp [Parameter.ofFields, Parameter.toRecord, Value.fields, Value.optionalText, Fields.text,
    Fields.flag, Fields.optionalText, Fields.get?]

namespace Element

/-- A location that was written is read back where it stands in a record. -/
theorem readLocation_toRecord (kind : Kind) (l : Location)
    (h : fields.get? "location" = some l.toRecord) : readLocation kind fields = .ok l := by
  have hnodup : (locationFields.map (·.1)).Nodup := by decide
  rw [readLocation, h]
  show (do checkTypes kind locationFields l.toRecord.fields
           checkNames kind "SourceLocation" locationFields l.toRecord.fields
           return Location.ofFields l.toRecord.fields) = _
  rw [checkTypes_of_fits kind (location_fits l) hnodup,
    checkNames_of_fits kind _ (location_fits l), location_ofFields]
  rfl

/-- Parameters are written as objects. -/
theorem objects?_toRecord (ps : List Parameter) :
    objects? (.list (ps.map (·.toRecord))) = some (ps.map (·.toRecord.fields)) := by
  rw [objects?, List.mapM_map]
  induction ps with
  | nil => rfl
  | cons p ps ih =>
    rw [List.mapM_cons, ih]
    rfl

/-- A check that each of several things passes is passed by all together. -/
theorem forM_ok {α ε : Type} {xs : List α} {f : α → Except ε Unit} (h : ∀ x ∈ xs, f x = .ok ()) :
    xs.forM f = .ok () := by
  induction xs with
  | nil => rfl
  | cons x xs ih =>
    rw [List.forM, h x (by simp)]
    exact ih fun y hy => h y (by simp [hy])

/-- Parameters that were written are read back where they stand in a record. -/
theorem readParameters_toRecord (kind : Kind) (ps : List Parameter)
    (h : fields.get? "parameters" = some (.list (ps.map (·.toRecord)))) :
    readParameters kind fields = .ok ps := by
  -- all types are checked before all names, and both before any is read
  have hnodup : (parameterFields.map (·.1)).Nodup := by decide
  have htypes : (ps.map (·.toRecord.fields)).forM (checkTypes kind parameterFields) = .ok () := by
    refine forM_ok fun fs hfs => ?_
    obtain ⟨p, -, rfl⟩ := List.mem_map.mp hfs
    exact checkTypes_of_fits kind (parameter_fits p) hnodup
  have hnames : (ps.map (·.toRecord.fields)).forM
      (checkNames kind "ParameterInfo" parameterFields) = .ok () := by
    refine forM_ok fun fs hfs => ?_
    obtain ⟨p, -, rfl⟩ := List.mem_map.mp hfs
    exact checkNames_of_fits kind _ (parameter_fits p)
  have hback : (ps.map (·.toRecord.fields)).map Parameter.ofFields = ps := by
    rw [List.map_map]
    exact List.map_id'' parameter_ofFields ps
  rw [readParameters, h]
  rcases ps with _ | ⟨p, ps⟩
  · rfl
  · simp only [objects?_toRecord, htypes, hnames, hback]
    rfl

/-! ## Elements

What every element has and what its variant adds are written one behind the other. Their names are
different, so reading by name gives back each of the two. -/

/-- A kind is found by its name. -/
theorem ofName?_name (k : Kind) : Kind.ofName? k.name = some k := by
  rcases k with _ | k | k | _
  · decide
  · cases k <;> decide
  · cases k <;> decide
  · decide

theorem fields_nodup (v : Variant) : (v.fields.map (·.1)).Nodup := by
  cases v <;> decide

theorem kind_not_mem_fields (v : Variant) : "kind" ∉ v.fields.map (·.1) := by
  cases v <;> decide

/-- What every element has is written to fit. -/
theorem sharedRecord_fits (s : Shared) : Fits (sharedRecord s) sharedFields := by
  have hparent := admits_optionalText s.parentId
  simp [Fits, sharedRecord, sharedFields, hparent, admits_texts]
  simp [FieldType.admits]

/-- What a variant has of its own is written to fit its own types. -/
theorem payloadRecord_fits {e : Element} (h : e.payload.isForeign = false) :
    Fits (payloadRecord e.payload) e.kind.variant.ownFields := by
  -- by the variant, since each has its own fields
  rcases e with ⟨s, i | ⟨k, i⟩ | ⟨k, i⟩ | _ | _⟩
  · simp [Fits, payloadRecord, Element.kind, Kind.variant, Variant.ownFields, admits_texts]
  · have hbase := admits_optionalText i.baseTypeId
    simp [Fits, payloadRecord, Element.kind, Kind.variant, Variant.ownFields, hbase, admits_texts,
      admits_textTable]
    simp [FieldType.admits]
  · simp [Fits, payloadRecord, Element.kind, Kind.variant, Variant.ownFields, admits_texts,
      admits_textTable]
    simp [FieldType.admits]
  · exact List.Forall₂.nil
  · exact absurd h (by simp [Payload.isForeign])

/-- The fields of an element of the four variants, without its kind. -/
theorem record_fits {e : Element} (h : e.payload.isForeign = false) :
    Fits (sharedRecord e.toShared ++ payloadRecord e.payload) e.kind.variant.fields :=
  List.rel_append (sharedRecord_fits e.toShared) (payloadRecord_fits h)

/-- The record of an element is its kind, what all elements have, and what its variant has. -/
theorem toRecord_eq {e : Element} (h : e.payload.isForeign = false) :
    e.toRecord = .object (("kind", .text e.kind.name) ::
      (sharedRecord e.toShared ++ payloadRecord e.payload)) := by
  rcases e with ⟨s, i | ⟨k, i⟩ | ⟨k, i⟩ | _ | _⟩
  · rfl
  · rfl
  · rfl
  · rfl
  · exact absurd h (by simp [Payload.isForeign])

/-- What every element has is read back, whatever stands behind it. -/
theorem sharedOf_record (freshId : String) (s : Shared) (more : Fields) :
    sharedOf freshId s.location (sharedRecord s ++ more) = s := by
  rcases s with ⟨id, name, fullName, l, documentation, access, modifiers, hash, version, _ | p⟩ <;>
  simp [sharedOf, sharedRecord, Fields.text, Fields.texts, Fields.whole, Fields.optionalText,
    Fields.get?, Value.optionalText, textItems_texts]

theorem get?_location (s : Shared) (more : Fields) :
    Fields.get? (sharedRecord s ++ more) "location" = some s.location.toRecord := by
  simp [sharedRecord, Fields.get?]

/-- A table of lists of texts is read back from where it stands. -/
theorem textTable_toRecord (cs : Constraints)
    (h : fields.get? key = some (Constraints.toRecord cs)) :
    fields.textTable key = cs := by
  rw [Fields.textTable, h, Constraints.toRecord]
  simp only [List.map_map]
  exact List.map_id'' (fun c => by simp [textItems_texts]) cs

/-- What a variant has of its own is read back, past what all elements have. -/
theorem payloadOf_record {e : Element} (h : e.payload.isForeign = false) :
    payloadOf e.kind e.payload.parameters (sharedRecord e.toShared ++ payloadRecord e.payload) =
      e.payload := by
  rcases e with ⟨s, i | ⟨k, i⟩ | ⟨k, i⟩ | _ | _⟩
  · simp [payloadOf, Element.kind, sharedRecord, payloadRecord, Fields.texts, Fields.get?,
      textItems_texts]
  · -- the table is looked up while the record is whole
    have htable : Fields.textTable (sharedRecord s ++ payloadRecord (.type k i))
        "generic_constraints" = i.genericConstraints :=
      textTable_toRecord _ (by simp [sharedRecord, payloadRecord, Fields.get?])
    rcases i with ⟨_ | base, interfaces, members, nested, parameters, constraints, a, b, c, d⟩ <;>
    simp [payloadOf, Element.kind, htable] <;>
    simp [sharedRecord, payloadRecord, Fields.texts, Fields.flag, Fields.optionalText,
      Value.optionalText, Fields.get?, textItems_texts]
  · have htable : Fields.textTable (sharedRecord s ++ payloadRecord (.member k i))
        "generic_constraints" = i.genericConstraints :=
      textTable_toRecord _ (by simp [sharedRecord, payloadRecord, Fields.get?])
    simp [payloadOf, Element.kind, Payload.parameters, htable]
    simp [sharedRecord, payloadRecord, Fields.text, Fields.texts, Fields.flag, Fields.get?,
      textItems_texts]
  · rfl
  · exact absurd h (by simp [Payload.isForeign])

/-- The parameters of a member are read back from its record, and other elements have none. -/
theorem readParameters_record {e : Element} (h : e.payload.isForeign = false) :
    readParameters e.kind (sharedRecord e.toShared ++ payloadRecord e.payload) =
      .ok e.payload.parameters := by
  rcases e with ⟨s, i | ⟨k, i⟩ | ⟨k, i⟩ | _ | _⟩
  · rfl
  · rfl
  · refine readParameters_toRecord _ i.parameters ?_
    simp [sharedRecord, payloadRecord, Fields.get?]
  · rfl
  · exact absurd h (by simp [Payload.isForeign])

/-- Fields that fit a kind are read as an element of that kind. -/
theorem ofFields_of_fits {kind : Kind} {l : Location} {ps : List Parameter} (freshId : String)
    (h : Fits fields kind.variant.fields) (hlocation : readLocation kind fields = .ok l)
    (hparameters : readParameters kind fields = .ok ps) :
    ofFields freshId (("kind", .text kind.name) :: fields) =
      .ok { toShared := sharedOf freshId l fields, payload := payloadOf kind ps fields } := by
  have hkind : readKind (("kind", .text kind.name) :: fields) = .ok kind := by
    have hget : Fields.get? (("kind", .text kind.name) :: fields) "kind" =
        some (.text kind.name) := rfl
    rw [readKind, hget]
    simp only [ofName?_name]
  -- the kind is no field of its own, so taking it out leaves the others
  have herase : Fields.erase (("kind", .text kind.name) :: fields) "kind" = fields := by
    rw [Fields.erase, List.filter_cons_of_neg (by simp), List.filter_eq_self]
    intro f hf
    have hne : f.1 ≠ "kind" := by
      intro heq
      have hmem := List.mem_map_of_mem (f := (·.1)) hf
      rw [h.keys, heq] at hmem
      exact kind_not_mem_fields _ hmem
    simpa using hne
  rw [ofFields, hkind]
  simp only [bind, Except.bind]
  rw [herase, checkTypes_of_fits kind h (fields_nodup _), hlocation, hparameters,
    checkNames_of_fits kind _ h]
  rfl

/-- **The record of an element is read as the element.** -/
theorem ofRecord_toRecord {e : Element} (h : e.payload.isForeign = false) (freshId : String) :
    ofRecord freshId e.toRecord = .ok e := by
  have hlocation := readLocation_toRecord e.kind e.location
    (get?_location e.toShared (payloadRecord e.payload))
  rw [toRecord_eq h, ofRecord,
    ofFields_of_fits freshId (record_fits h) hlocation (readParameters_record h),
    sharedOf_record, payloadOf_record h]

end Element

/-! ## The text of a record

A record nests no deeper than three levels and has no key twice, so its text is read back as the
record; this is where reading and writing of JSON comes in. -/

variable {depth : Nat}

/-- A text or null is plain. -/
theorem plain_optionalText (s : Option String) : Plain depth (.optionalText s) := by
  cases s
  · exact .null
  · exact .text _

/-- A list of texts nests one level deep. -/
theorem plain_texts (ss : List String) : Plain (depth + 1) (.texts ss) := by
  refine .list fun v hv => ?_
  obtain ⟨s, -, rfl⟩ := List.mem_map.mp hv
  exact .text s

/-- A location nests one level deep, and its numbers can be read. -/
theorem plain_location {e : Element} (h : e.WellTyped) : Plain (depth + 1) e.location.toRecord := by
  refine .object (by simp) ?_
  simp only [List.forall_mem_cons]
  exact ⟨.text _, .int h.startLine, .int h.startColumn, .int h.endLine, .int h.endColumn, nofun⟩

/-- A list of parameters nests two levels deep. -/
theorem plain_parameters (ps : List Parameter) :
    Plain (depth + 2) (.list (ps.map (·.toRecord))) := by
  refine .list fun v hv => ?_
  obtain ⟨p, -, rfl⟩ := List.mem_map.mp hv
  refine .object (by simp) ?_
  simp only [List.forall_mem_cons]
  exact ⟨.text _, .text _, .bool _, plain_optionalText _, .text _, nofun⟩

/-- A table of lists of texts nests two levels deep, and its keys stand once. -/
theorem plain_constraints {cs : Constraints} (h : (cs.map (·.1)).Nodup) :
    Plain (depth + 2) (Constraints.toRecord cs) := by
  refine .object ?_ fun f hf => ?_
  · rw [List.map_map]
    exact h
  · obtain ⟨c, -, rfl⟩ := List.mem_map.mp hf
    exact plain_texts c.2

namespace Element

/-- Nothing that a variant has of its own nests deeper than parameters and constraints. -/
theorem plain_payload {e : Element} (h : e.WellTyped) :
    ∀ f ∈ payloadRecord e.payload, Plain (depth + 2) f.2 := by
  -- only the two payloads that have constraints need their names distinct
  have htable := h.table
  rcases hpayload : e.payload with i | ⟨k, i⟩ | ⟨k, i⟩ | _ | _ <;> rw [hpayload] at htable <;>
    simp only [payloadRecord, List.forall_mem_cons]
  · exact ⟨plain_texts _, plain_texts _, nofun⟩
  · exact ⟨plain_optionalText _, plain_texts _, plain_texts _, plain_texts _, plain_texts _,
      plain_constraints htable, .bool _, .bool _, .bool _, .bool _, nofun⟩
  · exact ⟨.text _, plain_parameters _, .bool _, .bool _, .bool _, .bool _, .bool _, .bool _,
      plain_texts _, plain_constraints htable, nofun⟩
  · exact nofun
  · exact nofun

/-- The record of a well-typed element is read back from its text. -/
theorem plain_toRecord (depth : Nat) {e : Element} (h : e.WellTyped) :
    Plain (depth + 3) e.toRecord := by
  have hfits := record_fits h.own
  have hshared : ∀ f ∈ sharedRecord e.toShared, Plain (depth + 2) f.2 := by
    -- the parts of the shared fields are plain one by one
    simp only [sharedRecord, List.forall_mem_cons]
    exact ⟨.text _, .text _, .text _, plain_location h, .text _, .text _, plain_texts _, .text _,
      .int h.version, plain_optionalText _, nofun⟩
  rw [toRecord_eq h.own]
  refine .object ?_ ?_
  · rw [List.map_cons, hfits.keys]
    exact List.nodup_cons.mpr ⟨kind_not_mem_fields _, fields_nodup _⟩
  · rw [List.forall_mem_cons, List.forall_mem_append]
    exact ⟨.text _, hshared, plain_payload h⟩

end Element

end CodeCatalog
