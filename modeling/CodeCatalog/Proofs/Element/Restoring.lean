/-
What an element gives back of its record.

A field that is read and written again is the field that was given, or its default where it was left
out. The readers of the single types say so for one field each; from them follow the shared fields,
those of the payload, and the record of the element as a whole (`IsRead.toRecord`). A location and
parameters come back with what they leave out filled in.

So reading loses nothing (`ofRecord_sound`). Numbers that are too long and keys that come twice are
left aside: no reader of JSON gives them.
-/
import CodeCatalog.Element.Draft
import CodeCatalog.Proofs.Element.Reading

set_option autoImplicit false

namespace CodeCatalog

open Json

variable {fields : Fields} {types : FieldTypes} {name : String} {type : FieldType} {v : Value}

/-! ## Fields as they are given back

A reader of a field and the writer of its type give the given value back, and the default where none
was given. -/

namespace Typed

/-- A text, or its default. -/
theorem text (h : Typed types fields) {d : String} (ht : (name, FieldType.text) ∈ types) :
    Value.text (fields.text name d) = (fields.get? name).getD (.text d) := by
  rw [Fields.text]
  rcases hget : fields.get? name with _ | v
  · rfl
  · cases h ht (by decide) hget
    rfl

/-- A text that may be absent, or null. -/
theorem optionalText (h : Typed types fields) (ht : (name, FieldType.optionalText) ∈ types) :
    Value.optionalText (fields.optionalText name) = (fields.get? name).getD .null := by
  rw [Fields.optionalText]
  rcases hget : fields.get? name with _ | v
  · rfl
  · cases h ht (by decide) hget <;> rfl

/-- A whole number, or its default. -/
theorem whole (h : Typed types fields) {d : Int} (ht : (name, FieldType.whole) ∈ types) :
    Value.int (fields.whole name d) = (fields.get? name).getD (.int d) := by
  rw [Fields.whole]
  rcases hget : fields.get? name with _ | v
  · rfl
  · cases h ht (by decide) hget
    rfl

/-- A truth value, or false. -/
theorem flag (h : Typed types fields) (ht : (name, FieldType.flag) ∈ types) :
    Value.bool (fields.flag name) = (fields.get? name).getD (.bool false) := by
  rw [Fields.flag]
  rcases hget : fields.get? name with _ | v
  · rfl
  · cases h ht (by decide) hget
    rfl

/-- A list of texts, or the empty one. -/
theorem texts (h : Typed types fields) (ht : (name, FieldType.texts) ∈ types) :
    Value.texts (fields.texts name) = (fields.get? name).getD (.list []) := by
  rw [Fields.texts]
  rcases hget : fields.get? name with _ | v
  · rfl
  · cases h ht (by decide) hget
    exact congrArg Value.texts (textItems_texts _)

/-- A table of lists of texts, or the empty one. -/
theorem textTable (h : Typed types fields) (ht : (name, FieldType.textTable) ∈ types) :
    Constraints.toRecord (fields.textTable name) = (fields.get? name).getD (.object []) := by
  rcases hget : fields.get? name with _ | v
  · rw [Fields.textTable, hget]
    rfl
  · cases h ht (by decide) hget
    exact congrArg Constraints.toRecord (Element.textTable_toRecord _ hget)

end Typed

/-- A location is given back with the fields that were left out filled in. -/
theorem toRecord_location (h : Typed locationFields fields) :
    (Location.ofFields fields).toRecord = .object (Draft.complete "" locationFields fields) := by
  rw [Location.toRecord, Location.ofFields]
  simp (disch := decide) only [h.text, h.whole]
  rfl

/-- A parameter is given back with the fields that were left out filled in. -/
theorem toRecord_parameter (h : Typed parameterFields fields) :
    (Parameter.ofFields fields).toRecord = .object (Draft.complete "" parameterFields fields) := by
  rw [Parameter.toRecord, Parameter.ofFields]
  simp (disch := decide) only [h.text, h.flag, h.optionalText]
  rfl

/-- The items of a list; nothing else has any. -/
def Json.Value.items : Value → List Value
  | .list items => items
  | _ => []

/-- **What a given value becomes.** A location and each parameter get the fields that they leave
out, and parameters that are no list become an empty one. All else stays as it is given. -/
def completed (name : String) (v : Value) : Value :=
  if name = "location" then .object (Draft.complete "" locationFields v.fields)
  else if name = "parameters" then
    .list (v.items.map fun p => .object (Draft.complete "" parameterFields p.fields))
  else v

/-- What a field has in the record of the element: what is given, or its default. -/
def restored (freshId : String) (fields : Fields) (t : String × FieldType) : Value :=
  ((fields.get? t.1).map (completed t.1)).getD (Draft.defaultValue freshId t.1 t.2)

/-- What stands for nothing has no items. -/
theorem items_of_isNothing (h : v.isNothing = true) : v.items = [] := by
  cases v with
  | list items => exact List.isEmpty_iff.mp h
  | _ => rfl

namespace Element

variable {kind : Kind}

/-- A location is given back with its own defaults filled in. -/
theorem toRecord_readLocation (freshId : String) {l : Location}
    (h : readLocation kind fields = .ok l) :
    l.toRecord = restored freshId fields ("location", .nested) := by
  rcases readLocation_eq_ok h with ⟨hget, rfl⟩ | ⟨given, hget, haccepts, rfl⟩
  · rw [restored, hget]
    rfl
  · rw [restored, hget, toRecord_location haccepts.typed]
    rfl

/-- Parameters are given back with the defaults of each filled in. -/
theorem toRecord_readParameters (freshId : String) {ps : List Parameter}
    (h : readParameters kind fields = .ok ps) :
    Value.list (ps.map (·.toRecord)) = restored freshId fields ("parameters", .nested) := by
  -- the parameters are missing, count as nothing, or are a list of records
  rcases readParameters_eq_ok h with ⟨hget, rfl⟩ | ⟨v, hget, hnothing, rfl⟩ |
    ⟨given, hget, haccepts, rfl⟩
  · rw [restored, hget]
    rfl
  · rw [restored, hget]
    show Value.list [] = .list (v.items.map _)
    rw [items_of_isNothing hnothing]
    rfl
  · rw [restored, hget, List.map_map]
    show _ = Value.list ((given.map Value.object).map _)
    rw [List.map_map]
    exact congrArg _ (List.map_congr_left fun p hp => toRecord_parameter (haccepts p hp).typed)

/-- A field that is neither a location nor parameters is given back as it is. -/
theorem restored_leaf {freshId : String} (hlocation : name ≠ "location")
    (hparameters : name ≠ "parameters") :
    restored freshId fields (name, type) =
      (fields.get? name).getD (Draft.defaultValue freshId name type) := by
  have hcompleted : completed name = id := by
    funext v
    rw [completed, if_neg hlocation, if_neg hparameters, id]
  rw [restored, hcompleted, Option.map_id]
  rfl

/-- What every element has is given back field by field. -/
theorem sharedRecord_sharedOf {freshId : String} {l : Location} (h : Typed sharedFields fields)
    (hlocation : readLocation kind fields = .ok l) :
    sharedRecord (sharedOf freshId l fields) =
      sharedFields.map fun t => (t.1, restored freshId fields t) := by
  rw [sharedRecord, sharedOf, toRecord_readLocation freshId hlocation]
  simp (disch := decide) only [sharedFields, List.map_cons, List.map_nil, restored_leaf,
    h.text, h.texts, h.whole, h.optionalText]
  rfl

/-- What a variant has of its own is given back field by field. -/
theorem payloadRecord_payloadOf {freshId : String} {ps : List Parameter}
    (h : Typed kind.variant.ownFields fields)
    (hparameters : readParameters kind fields = .ok ps) :
    payloadRecord (payloadOf kind ps fields) =
      kind.variant.ownFields.map fun t => (t.1, restored freshId fields t) := by
  have hps := toRecord_readParameters freshId hparameters
  -- each variant has its own fields, so the record is compared field by field for each
  rcases kind with _ | k | k | _
  · change Typed (Variant.ownFields .space) fields at h
    simp (disch := decide) only [payloadRecord, payloadOf, Kind.variant, Variant.ownFields,
      List.map_cons, List.map_nil, restored_leaf, h.texts]
    rfl
  · change Typed (Variant.ownFields .type) fields at h
    simp (disch := decide) only [payloadRecord, payloadOf, Kind.variant, Variant.ownFields,
      List.map_cons, List.map_nil, restored_leaf, h.texts, h.flag, h.optionalText, h.textTable]
    rfl
  · change Typed (Variant.ownFields .member) fields at h
    simp (disch := decide) only [payloadRecord, payloadOf, Kind.variant, Variant.ownFields,
      List.map_cons, List.map_nil, restored_leaf, h.texts, h.flag, h.text, h.textTable, hps]
    rfl
  · rfl

end Element

/-! ## Proper values

A value that was read from a text is proper: its numbers can be written again, and no object has a
key twice. What an element takes from a proper record can therefore be written. -/

/-- A value that a reader of JSON gives: no key comes twice, and whole numbers are not too long. -/
inductive Json.Value.Proper : Value → Prop
  | null : Proper .null
  | bool (b : Bool) : Proper (.bool b)
  | int {n : Int} (hlen : ReadableWhole n) : Proper (.int n)
  | real (x : Binary64) : Proper (.real x)
  | text (s : String) : Proper (.text s)
  | list {items : List Value} (hitems : ∀ v ∈ items, Proper v) : Proper (.list items)
  | object {fields : Fields} (hkeys : (fields.map (·.1)).Nodup)
      (hfields : ∀ f ∈ fields, Proper f.2) : Proper (.object fields)

theorem proper_of_get? (h : ∀ f ∈ fields, f.2.Proper) (hget : fields.get? name = some v) :
    v.Proper :=
  h _ (mem_of_get? hget)

/-- A whole number of a proper record can be written and read again, and so can a default that can.
-/
theorem readable_whole {d : Int} (h : ∀ f ∈ fields, f.2.Proper) (hd : ReadableWhole d) :
    ReadableWhole (fields.whole name d) := by
  rw [Fields.whole]
  split
  · rename_i n hget
    cases proper_of_get? h hget with
    | int hlen => exact hlen
  · exact hd

/-- The keys of a table in a proper record stand once. -/
theorem nodup_textTable (h : ∀ f ∈ fields, f.2.Proper) :
    ((fields.textTable name).map (·.1)).Nodup := by
  rw [Fields.textTable]
  split
  · rename_i entries hget
    cases proper_of_get? h hget with
    | object hkeys _ => rwa [List.map_map]
  · exact List.nodup_nil

/-- Where no name stands twice, each field is found under its own. -/
theorem get?_of_mem (hkeys : (fields.map (·.1)).Nodup) {f : String × Value} (hf : f ∈ fields) :
    fields.get? f.1 = some f.2 := by
  rcases hget : fields.get? f.1 with _ | v
  · rw [Fields.get?, Option.map_eq_none_iff, List.find?_eq_none] at hget
    exact absurd (hget f hf) (by simp)
  · rw [← List.inj_on_of_nodup_map hkeys (mem_of_get? hget) hf rfl]

namespace Element

variable {kind : Kind}

/-- The constraints of a member come from a table whose keys stand once. -/
theorem nodup_constraints {ps : List Parameter} (h : ∀ f ∈ fields, f.2.Proper) :
    ((payloadOf kind ps fields).constraints.map (·.1)).Nodup := by
  rcases kind with _ | k | k | _
  · exact List.nodup_nil
  · exact nodup_textTable h
  · exact nodup_textTable h
  · exact List.nodup_nil

/-- The whole numbers of a location that is read are not too long. -/
theorem readable_location {l : Location} (h : ∀ f ∈ fields, f.2.Proper)
    (hread : readLocation kind fields = .ok l) :
    ReadableWhole l.startLine ∧ ReadableWhole l.startColumn ∧ ReadableWhole l.endLine ∧
      ReadableWhole l.endColumn := by
  have hzero : ReadableWhole 0 := by decide
  rcases readLocation_eq_ok hread with ⟨-, rfl⟩ | ⟨given, hget, -, rfl⟩
  · exact ⟨hzero, hzero, hzero, hzero⟩
  · cases proper_of_get? h hget with
    | object _ hgiven =>
      exact ⟨readable_whole hgiven hzero, readable_whole hgiven hzero, readable_whole hgiven hzero,
        readable_whole hgiven hzero⟩

/-! ## Accepted records

An accepted record and that of its element differ in two ways only: fields that were not there have
their defaults, and the order is that of the types. -/

namespace IsRead

variable {freshId : String} {record : Fields} {e : Element}

/-- What is left without the kind is what is given of the variant's fields. -/
theorem get?_erase_kind {t : String × FieldType} (ht : t ∈ e.kind.variant.fields) :
    (record.erase "kind").get? t.1 = record.get? t.1 := by
  refine get?_erase fun hname => kind_not_mem_fields e.kind.variant ?_
  rw [← hname]
  exact List.mem_map_of_mem ht

/-- **The record of the element**: its kind, and all fields of its variant, each restored. -/
theorem toRecord (h : IsRead freshId record e) :
    e.toRecord = .object (("kind", .text e.kind.name) ::
      e.kind.variant.fields.map fun t => (t.1, restored freshId record t)) := by
  obtain ⟨ps, hparameters, hpayload⟩ := h.payload
  have hshared : sharedRecord e.toShared =
      sharedFields.map fun t => (t.1, restored freshId (record.erase "kind") t) := by
    rw [h.shared]
    exact sharedRecord_sharedOf (h.accepts.typed.mono (List.subset_append_left _ _)) h.location
  have hown : payloadRecord e.payload =
      e.kind.variant.ownFields.map fun t => (t.1, restored freshId (record.erase "kind") t) := by
    rw [hpayload]
    exact payloadRecord_payloadOf (h.accepts.typed.mono (List.subset_append_right _ _)) hparameters
  rw [toRecord_eq h.isForeign, hshared, hown, ← List.map_append]
  -- the shared fields do not see that the kind has been taken off
  congr 2
  refine List.map_congr_left fun t ht => ?_
  rw [restored, get?_erase_kind ht, ← restored]

/-- The record of an element that was read has under each name what was there, or the default. -/
theorem get?_toRecord (h : IsRead freshId record e) {t : String × FieldType}
    (ht : t ∈ e.kind.variant.fields) :
    e.toRecord.get? t.1 = some (restored freshId record t) := by
  have hnodup := fields_nodup e.kind.variant
  rw [h.toRecord]
  show Fields.get? (("kind", .text e.kind.name) :: _) t.1 = _
  refine get?_of_mem (f := (t.1, restored freshId record t)) ?_ ?_
  · rw [List.map_cons, List.map_map]
    exact List.nodup_cons.mpr ⟨kind_not_mem_fields _, hnodup⟩
  · exact List.mem_cons_of_mem _ (List.mem_map_of_mem (f := fun t => (t.1, restored _ _ t)) ht)

/-- What is read from a proper record is well typed. -/
theorem wellTyped (h : IsRead freshId record e) (hproper : ∀ f ∈ record, f.2.Proper) :
    e.WellTyped := by
  obtain ⟨ps, -, hpayload⟩ := h.payload
  have hgiven : ∀ f ∈ record.erase "kind", f.2.Proper :=
    fun f hf => hproper f (List.mem_filter.mp hf).1
  obtain ⟨hstart, hstartColumn, hend, hendColumn⟩ := readable_location hgiven h.location
  refine ⟨h.isForeign, ?_, hstart, hstartColumn, hend, hendColumn, ?_⟩
  · rw [hpayload]
    exact nodup_constraints hgiven
  · rw [h.shared]
    exact readable_whole hgiven (by decide)

end IsRead

/-- **What is promised of an accepted record and its element.** The element is of the variant of the
record's kind and carries that kind; its fields hold values of their types; its record has what was
given, and defaults for what was not; and it is read from that record again. -/
structure Restores (freshId : String) (record : Fields) (e : Element) : Prop where
  kind : record.get? "kind" = some (.text e.kind.name)
  variant : e.variantName = e.kind.variant.name
  wellTyped : e.WellTyped
  declared : ∀ t ∈ e.kind.variant.fields, ∃ v, e.toRecord.get? t.1 = some v ∧ Declared t.1 t.2 v
  given : ∀ f ∈ record, e.toRecord.get? f.1 = some (completed f.1 f.2)
  default : ∀ t ∈ e.kind.variant.fields, record.get? t.1 = none →
    e.toRecord.get? t.1 = some (Draft.defaultValue freshId t.1 t.2)
  again : ∀ other, ofRecord other e.toRecord = .ok e

/-- What a field is given back as, where it is given. -/
theorem restored_of_get? {freshId : String} {t : String × FieldType}
    (h : fields.get? t.1 = some v) : restored freshId fields t = completed t.1 v := by
  rw [restored, h]
  rfl

/-- A field that was not there is given back as its default. -/
theorem restored_of_none {freshId : String} {t : String × FieldType}
    (h : fields.get? t.1 = none) :
    restored freshId fields t = Draft.defaultValue freshId t.1 t.2 := by
  rw [restored, h]
  rfl

/-- The fields are those of the types, each with a value of its declared type. -/
def Declares (fields : Fields) (types : FieldTypes) : Prop :=
  List.Forall₂ (fun f t => f.1 = t.1 ∧ Declared t.1 t.2 f.2) fields types

/-- A text that may be absent is a text or null, as declared. -/
theorem declared_optionalText (s : Option String) :
    Declared name .optionalText (.optionalText s) := by
  cases s
  · exact .noText
  · exact .someText _

/-- Parameters are written as a list of objects, as declared. -/
theorem declared_parameters (ps : List Parameter) :
    Declared "parameters" .nested (.list (ps.map (·.toRecord))) := by
  have hobjects : ps.map (·.toRecord) = (ps.map (·.toRecord.fields)).map .object := by
    rw [List.map_map]
    rfl
  rw [hobjects]
  exact .parameters _

/-- What every element has is written with values of the declared types. -/
theorem sharedRecord_declares (s : Shared) : Declares (sharedRecord s) sharedFields := by
  have hparent : Declared "parent_id" .optionalText (.optionalText s.parentId) :=
    declared_optionalText s.parentId
  have hlocation : Declared "location" .nested s.location.toRecord := .location _
  simp [Declares, sharedRecord, sharedFields, hparent, hlocation, Declared.text, Declared.texts,
    Declared.whole]

/-- So is what a variant has of its own. -/
theorem payloadRecord_declares {e : Element} (h : e.payload.isForeign = false) :
    Declares (payloadRecord e.payload) e.kind.variant.ownFields := by
  rcases e with ⟨s, i | ⟨k, i⟩ | ⟨k, i⟩ | _ | _⟩
  -- as in the record itself, the fields are gone through for each variant
  · simp [Declares, payloadRecord, Element.kind, Kind.variant, Variant.ownFields, Declared.texts]
  · have hbase : Declared "base_type_id" .optionalText (.optionalText i.baseTypeId) :=
      declared_optionalText i.baseTypeId
    simp [Declares, payloadRecord, Element.kind, Kind.variant, Variant.ownFields, hbase,
      Declared.texts, Declared.textTable, Declared.flag]
  · have hparameters := declared_parameters i.parameters
    simp [Declares, payloadRecord, Element.kind, Kind.variant, Variant.ownFields, hparameters,
      Declared.texts, Declared.textTable, Declared.flag, Declared.text]
  · exact List.Forall₂.nil
  · exact absurd h (by simp [Payload.isForeign])

/-- What is restored has the declared types, as it makes up the record of an element. -/
theorem IsRead.declared {freshId : String} {record : Fields} {e : Element}
    (h : IsRead freshId record e) {t : String × FieldType} (ht : t ∈ e.kind.variant.fields) :
    Declared t.1 t.2 (restored freshId record t) := by
  have hrecord := toRecord_eq h.isForeign
  rw [h.toRecord] at hrecord
  have hfields := (List.cons.inj (Value.object.inj hrecord)).2
  have hall : Declares (e.kind.variant.fields.map fun t => (t.1, restored freshId record t))
      e.kind.variant.fields := by
    rw [hfields]
    exact List.rel_append (sharedRecord_declares e.toShared) (payloadRecord_declares h.isForeign)
  rw [Declares, List.forall₂_map_left_iff, List.forall₂_same] at hall
  exact (hall t ht).2

/-- A proper record that was read is given back with its defaults filled in. -/
theorem IsRead.restores {freshId : String} {record : Fields} {e : Element}
    (h : IsRead freshId record e) (hproper : (Value.object record).Proper) :
    Restores freshId record e := by
  cases hproper with
  | object hkeys hfields =>
    refine ⟨h.kind, ?_, h.wellTyped hfields, fun t ht => ⟨_, h.get?_toRecord ht, h.declared ht⟩,
      fun f hf => ?_, fun t ht hget => ?_, ofRecord_toRecord h.isForeign⟩
    · obtain ⟨ps, -, hpayload⟩ := h.payload
      rw [variantName, hpayload]
      rcases e.kind with _ | k | k | _ <;> rfl
    -- the kind is the one field that is not read by its type
    · by_cases hkind : f.1 = "kind"
      · have hvalue : some f.2 = some (.text e.kind.name) := by
          rw [← h.kind, ← hkind, get?_of_mem hkeys hf]
        rw [h.toRecord, hkind, Option.some.inj hvalue]
        rfl
      · obtain ⟨type, ht⟩ := h.known hf hkind
        rw [h.get?_toRecord ht, restored_of_get? (get?_of_mem hkeys hf)]
    · rw [h.get?_toRecord ht, restored_of_none hget]

/-- **Reading is sound and loses nothing.** Whatever is read either is malformed, and refused as
that and nothing else, or is an object whose element has all of it. -/
theorem ofRecord_sound (freshId : String) (r : Value) (hproper : r.Proper) :
    (∃ error, ofRecord freshId r = .error error ∧ error.code = .validationMalformedRecord) ∨
    ∃ record e, r = .object record ∧ ofRecord freshId r = .ok e ∧ Restores freshId record e := by
  rcases hread : ofRecord freshId r with error | e
  · exact .inl ⟨error, rfl, code_of_ofRecord hread⟩
  · obtain ⟨record, rfl, h⟩ := isRead_of_ofRecord hread
    exact .inr ⟨record, e, rfl, rfl, h.restores hproper⟩

/-- The record of a method that leaves most of it out. -/
def methodRecord : Value :=
  .object [("kind", .text "Method"), ("name", .text "Run"),
    ("location", .object [("start_line", .int 3)]), ("parameters", .bool false)]

/-- The record has no key twice and no number that is too long. -/
theorem methodRecord_proper : methodRecord.Proper := by
  refine .object (by decide) ?_
  simp only [List.forall_mem_cons]
  refine ⟨.text _, .text _, .object (by decide) ?_, .bool _, nofun⟩
  simp only [List.forall_mem_cons]
  exact ⟨.int (by decide), nofun⟩

/-- It is read, with a fresh id, a whole location and no parameters. -/
theorem ofRecord_sound_method :
    methodRecord.Proper ∧ ∃ e, ofRecord "f" methodRecord = .ok e ∧
      e.toRecord.get? "name" = some (.text "Run") ∧ e.toRecord.get? "id" = some (.text "f") ∧
      e.toRecord.get? "location" = some (Location.toRecord { startLine := 3 }) ∧
      e.toRecord.get? "parameters" = some (.list []) := by
  refine ⟨methodRecord_proper, ?_⟩
  rcases ofRecord_sound "f" methodRecord methodRecord_proper with ⟨error, herror, -⟩ |
    ⟨record, e, hrecord, hread, hrestores⟩
  · exact absurd herror nofun
  · obtain rfl := Value.object.inj hrecord
    -- the kind of the element is known by its name only, since the element itself is what the
    -- reading gives
    have hname : "Method" = e.kind.name := Value.text.inj (Option.some.inj hrestores.kind)
    have hkind : e.kind = .member .method := by
      have hread := ofName?_name e.kind
      rw [← hname] at hread
      exact (Option.some.inj hread).symm
    have hid : ("id", FieldType.text) ∈ e.kind.variant.fields := by
      rw [hkind]
      decide
    exact ⟨e, hread, hrestores.given ("name", .text "Run") (by decide),
      hrestores.default ("id", .text) hid rfl,
      hrestores.given ("location", .object [("start_line", .int 3)]) (by decide),
      hrestores.given ("parameters", .bool false) (by decide)⟩

end Element

end CodeCatalog
