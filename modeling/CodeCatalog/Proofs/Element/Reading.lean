/-
What the record of an element has to be.

A record is read in three passes: the types of its values are checked, its nested objects are read,
and its names are checked. What it has behind it when all three pass is said once (`IsRead`). The
types are told by the values that they have and not by a test (`Declared`), so that what follows of
an accepted record can be read without the tests.
-/
import CodeCatalog.Proofs.Element.Record

set_option autoImplicit false

namespace CodeCatalog

open Json

variable {fields : Fields} {types : FieldTypes} {name : String} {type : FieldType} {v : Value}

/-! ## Declared types

Each type of a field admits some values. The values are listed here by what they are, and the test
that the reader makes lets just these through. -/

/-- **A value of the declared type of a field.** What is nested is told by its name: a location is
an object, and parameters are null or a list of objects. -/
inductive Declared : (name : String) → (type : FieldType) → Value → Prop
  | text {name : String} (s : String) : Declared name .text (.text s)
  | noText {name : String} : Declared name .optionalText .null
  | someText {name : String} (s : String) : Declared name .optionalText (.text s)
  | whole {name : String} (n : Int) : Declared name .whole (.int n)
  | flag {name : String} (b : Bool) : Declared name .flag (.bool b)
  | texts {name : String} (ss : List String) : Declared name .texts (.texts ss)
  | textTable {name : String} (cs : Constraints) :
      Declared name .textTable (Constraints.toRecord cs)
  | location (l : Fields) : Declared "location" .nested (.object l)
  | noParameters : Declared "parameters" .nested .null
  | parameters (ps : List Fields) : Declared "parameters" .nested (.list (ps.map .object))

/-- A list of texts is the list of its texts. -/
theorem texts_textItems (h : FieldType.isTexts v = true) : Value.texts (Fields.textItems v) = v := by
  cases v with
  | list items =>
    rw [FieldType.isTexts, List.all_eq_true] at h
    rw [Value.texts, Fields.textItems]
    congr 1
    induction items with
    | nil => rfl
    | cons item items ih =>
      rw [List.forall_mem_cons] at h
      -- only texts pass, so each item is one
      cases item with
      | text s => exact congrArg (Value.text s :: ·) (ih h.2)
      | _ => exact absurd h.1 (by simp [FieldType.isText])
  | _ => exact absurd h (by simp [FieldType.isTexts])

/-- A table of lists of texts is the table of their texts. -/
theorem toRecord_textTable {entries : Fields} (h : entries.all (FieldType.isTexts ·.2) = true) :
    Constraints.toRecord (entries.map fun f => (f.1, Fields.textItems f.2)) = .object entries := by
  rw [List.all_eq_true] at h
  have hentry : ∀ f ∈ entries, (f.1, Value.texts (Fields.textItems f.2)) = f :=
    fun f hf => by rw [texts_textItems (h f hf)]
  rw [Constraints.toRecord, List.map_map]
  exact congrArg _ ((List.map_congr_left hentry).trans (List.map_id _))

/-- The test of a type finds the values of that type, where nothing is nested. -/
theorem declared_of_admits (hleaf : type ≠ .nested) (h : type.admits v = true) :
    Declared name type v := by
  -- a type admits the values of its own form only
  cases type with
  | text =>
    cases v with
    | text s => exact .text s
    | _ => exact absurd h (by simp [FieldType.admits])
  | optionalText =>
    cases v with
    | null => exact .noText
    | text s => exact .someText s
    | _ => exact absurd h (by simp [FieldType.admits])
  | whole =>
    cases v with
    | int n => exact .whole n
    | _ => exact absurd h (by simp [FieldType.admits])
  | flag =>
    cases v with
    | bool b => exact .flag b
    | _ => exact absurd h (by simp [FieldType.admits])
  | texts => exact texts_textItems (v := v) h ▸ .texts _
  | textTable =>
    cases v with
    | object entries => exact toRecord_textTable h ▸ .textTable _
    | _ => exact absurd h (by simp [FieldType.admits])
  | nested => exact absurd rfl hleaf

/-! ## Checks that pass

The reader makes its checks in a fixed order and stops at the first that fails. An element that
comes out has passed all of them, and `IsRead` says what that means for its record. -/

/-- What a computation that goes on and succeeds has behind it. -/
theorem exists_of_bind_ok {ε α β : Type} {x : Except ε α} {f : α → Except ε β} {b : β}
    (h : (x >>= f) = .ok b) : ∃ a, x = .ok a ∧ f a = .ok b := by
  rcases x with e | a
  · exact absurd h nofun
  · exact ⟨a, rfl, h⟩

/-- Taking one field away leaves the others. -/
theorem get?_erase {fields : Fields} {key other : String} (h : key ≠ other) :
    (fields.erase other).get? key = fields.get? key := by
  rw [Fields.get?, Fields.get?, Fields.erase]
  induction fields with
  | nil => rfl
  | cons f fields ih =>
    by_cases hf : f.1 = other
    -- the entry that is taken away has the other key
    · have hkey : f.1 ≠ key := fun hkey => h (hkey.symm.trans hf)
      rw [List.filter_cons_of_neg (by simp [hf]), List.find?_cons_of_neg (by simp [hkey]), ih]
    · rw [List.filter_cons_of_pos (by simp [hf]), List.find?_cons, List.find?_cons]
      split
      · rfl
      · exact ih

/-- What is given for the types has a value of its declared type. Nested objects are looked into on
their own. -/
def Typed (types : FieldTypes) (fields : Fields) : Prop :=
  ∀ ⦃name type v⦄, (name, type) ∈ types → type ≠ .nested → fields.get? name = some v →
    Declared name type v

theorem Typed.mono (h : Typed types fields) {some : FieldTypes} (hsub : some ⊆ types) :
    Typed some fields :=
  fun _ _ _ ht => h (hsub ht)

/-- **Fields that are accepted for their types**: all are known, and all hold values of their
types. -/
structure Accepts (types : FieldTypes) (fields : Fields) : Prop where
  known : ∀ f ∈ fields, ∃ type, (f.1, type) ∈ types
  typed : Typed types fields

/-- Where no field is unknown, each has a type. -/
theorem known_of_unknownField? (h : unknownField? types fields = none) :
    ∀ f ∈ fields, ∃ type, (f.1, type) ∈ types := by
  intro f hf
  rw [unknownField?, Option.map_eq_none_iff, List.find?_eq_none] at h
  have hany := h f hf
  rw [Bool.not_eq_true, Bool.not_eq_false', List.any_eq_true] at hany
  obtain ⟨t, ht, hname⟩ := hany
  rw [decide_eq_true_eq] at hname
  exact ⟨t.2, hname ▸ ht⟩

/-- Where no field is wrong, each that is there has a value that its type admits. -/
theorem admits_of_wrongField? (h : wrongField? types fields = none) (ht : (name, type) ∈ types)
    (hv : fields.get? name = some v) : type.admits v = true := by
  rw [wrongField?, List.findSome?_eq_none_iff] at h
  have hfield := h (name, type) ht
  simp only [hv] at hfield
  split at hfield
  · assumption
  · cases hfield

namespace Element

variable {kind : Kind} {owner : String}

/-- The check of the types passes only if no field is wrong. -/
theorem wrongField?_of_checkTypes (h : checkTypes kind types fields = .ok ()) :
    wrongField? types fields = none := by
  rw [checkTypes] at h
  split at h
  · cases h
  · assumption

/-- The check of the names passes only if no field is unknown. -/
theorem unknownField?_of_checkNames (h : checkNames kind owner types fields = .ok ()) :
    unknownField? types fields = none := by
  rw [checkNames] at h
  split at h
  · cases h
  · assumption

/-- Both checks together accept a record. -/
theorem accepts_of_checks (htypes : checkTypes kind types fields = .ok ())
    (hnames : checkNames kind owner types fields = .ok ()) : Accepts types fields where
  known := known_of_unknownField? (unknownField?_of_checkNames hnames)
  typed _ _ _ ht hleaf hv :=
    declared_of_admits hleaf (admits_of_wrongField? (wrongField?_of_checkTypes htypes) ht hv)

/-- A location that is read was not there, or is an object whose own fields are accepted. -/
theorem readLocation_eq_ok {l : Location} (h : readLocation kind fields = .ok l) :
    fields.get? "location" = none ∧ l = {} ∨
    ∃ given, fields.get? "location" = some (.object given) ∧ Accepts locationFields given ∧
      l = .ofFields given := by
  rw [readLocation] at h
  split at h
  · rename_i hget
    exact .inl ⟨hget, (Except.ok.inj h).symm⟩
  · rename_i given hget
    -- the types are checked before the names, and both have to pass
    obtain ⟨_, htypes, h⟩ := exists_of_bind_ok h
    obtain ⟨_, hnames, h⟩ := exists_of_bind_ok h
    exact .inr ⟨given, hget, accepts_of_checks htypes hnames, (Except.ok.inj h).symm⟩
  · cases h

/-- What is a list of objects is the list of those objects. -/
theorem eq_map_of_objects? {ps : List Fields} (h : objects? v = some ps) :
    v = .list (ps.map .object) := by
  rw [objects?.eq_def] at h
  split at h
  · rename_i items
    congr 1
    -- along the items: each has to be an object, and the first that is none would refuse them all
    induction items generalizing ps with
    | nil => rw [← Option.some.inj h]; rfl
    | cons item items ih =>
      rw [List.mapM_cons] at h
      obtain ⟨p, hp, h⟩ := Option.bind_eq_some_iff.mp h
      obtain ⟨more, hmore, h⟩ := Option.bind_eq_some_iff.mp h
      rw [← Option.some.inj h, List.map_cons, ← ih hmore]
      split at hp
      · rw [← Option.some.inj hp]
      · exact absurd hp nofun
  · exact absurd h nofun

/-- A check of each of several things passes only if each passes. -/
theorem of_forM_ok {α ε : Type} {xs : List α} {f : α → Except ε Unit} (h : xs.forM f = .ok ()) :
    ∀ x ∈ xs, f x = .ok () := by
  induction xs with
  | nil => exact fun _ hx => absurd hx List.not_mem_nil
  | cons x xs ih =>
    obtain ⟨_, hhead, htail⟩ := exists_of_bind_ok h
    exact List.forall_mem_cons.mpr ⟨hhead, ih htail⟩

/-- Parameters that are read: none were given, or what was given counts as nothing, or they are
objects that are accepted. -/
theorem readParameters_eq_ok {ps : List Parameter} (h : readParameters kind fields = .ok ps) :
    fields.get? "parameters" = none ∧ ps = [] ∨
    (∃ v, fields.get? "parameters" = some v ∧ v.isNothing = true ∧ ps = []) ∨
    ∃ given : List Fields, fields.get? "parameters" = some (.list (given.map .object)) ∧
      (∀ p ∈ given, Accepts parameterFields p) ∧ ps = given.map .ofFields := by
  rw [readParameters] at h
  split at h
  · rename_i hget
    exact .inl ⟨hget, (Except.ok.inj h).symm⟩
  · rename_i v hget
    split at h
    · rename_i hnothing
      -- a value that counts as nothing is read as no parameters, whatever its type is
      exact .inr (.inl ⟨v, hget, hnothing, (Except.ok.inj h).symm⟩)
    · split at h
      · cases h
      · rename_i given hgiven
        obtain ⟨_, htypes, h⟩ := exists_of_bind_ok h
        obtain ⟨_, hnames, h⟩ := exists_of_bind_ok h
        refine .inr (.inr ⟨given, ?_, fun p hp => ?_, (Except.ok.inj h).symm⟩)
        · rw [hget, eq_map_of_objects? hgiven]
        · exact accepts_of_checks (of_forM_ok htypes p hp) (of_forM_ok hnames p hp)

/-- The kind of a record is one that is named in it. -/
theorem get?_of_readKind {record : Fields} (h : readKind record = .ok kind) :
    record.get? "kind" = some (.text kind.name) := by
  rw [readKind] at h
  split at h
  · cases h
  · cases h
  · rename_i s hget
    split at h
    · rename_i k hk
      have hname := List.find?_some hk
      rw [decide_eq_true_eq] at hname
      rw [hget, ← Except.ok.inj h, hname]
    · cases h
  · cases h

theorem kind_payloadOf (s : Shared) (kind : Kind) (ps : List Parameter) (fields : Fields) :
    Element.kind { toShared := s, payload := payloadOf kind ps fields } = kind := by
  rcases kind with _ | k | k | _ <;> rfl

/-- **What an accepted record has behind it.** It names the kind of its element, its other fields
are accepted for the variant of that kind, and so are its location and its parameters. -/
structure IsRead (freshId : String) (record : Fields) (e : Element) : Prop where
  kind : record.get? "kind" = some (.text e.kind.name)
  accepts : Accepts e.kind.variant.fields (record.erase "kind")
  location : readLocation e.kind (record.erase "kind") = .ok e.location
  shared : e.toShared = sharedOf freshId e.location (record.erase "kind")
  payload : ∃ ps, readParameters e.kind (record.erase "kind") = .ok ps ∧
    e.payload = payloadOf e.kind ps (record.erase "kind")

/-- An element that is read has a record behind it that passed every check. -/
theorem isRead_of_ofRecord {freshId : String} {r : Value} {e : Element}
    (h : ofRecord freshId r = .ok e) : ∃ record, r = .object record ∧ IsRead freshId record e := by
  obtain ⟨record, rfl, hread⟩ :
      ∃ record, r = .object record ∧ ofFields freshId record = .ok e := by
    rw [ofRecord.eq_def] at h
    split at h
    · rename_i record
      refine ⟨record, rfl, ?_⟩
      split at h
      · rename_i hfields
        rw [hfields, Except.ok.inj h]
      · exact absurd h nofun
    · exact absurd h nofun
  -- each step of the reader that succeeded tells one part
  obtain ⟨kind, hkind, h⟩ := exists_of_bind_ok hread
  obtain ⟨_, htypes, h⟩ := exists_of_bind_ok h
  obtain ⟨location, hlocation, h⟩ := exists_of_bind_ok h
  obtain ⟨parameters, hparameters, h⟩ := exists_of_bind_ok h
  obtain ⟨_, hnames, h⟩ := exists_of_bind_ok h
  have he := Except.ok.inj h
  have hkinds : e.kind = kind := by rw [← he, kind_payloadOf]
  have hplaces : e.location = location := congrArg (·.location) he.symm
  subst hkinds hplaces
  exact ⟨record, rfl, get?_of_readKind hkind, accepts_of_checks htypes hnames, hlocation,
    congrArg Element.toShared he.symm, parameters, hparameters, congrArg Element.payload he.symm⟩

theorem isForeign_payloadOf (kind : Kind) (parameters : List Parameter) (fields : Fields) :
    (payloadOf kind parameters fields).isForeign = false := by
  rcases kind with _ | k | k | _ <;> rfl

namespace IsRead

variable {freshId : String} {record : Fields} {e : Element}

/-- So no element that was read has one. -/
theorem isForeign (h : IsRead freshId record e) : e.payload.isForeign = false := by
  obtain ⟨ps, -, hpayload⟩ := h.payload
  rw [hpayload]
  exact isForeign_payloadOf e.kind ps _

/-- All fields but the kind are known to the variant. -/
theorem known (h : IsRead freshId record e) {f : String × Value} (hf : f ∈ record)
    (hkind : f.1 ≠ "kind") : ∃ type, (f.1, type) ∈ e.kind.variant.fields :=
  h.accepts.known f (List.mem_filter.mpr ⟨hf, decide_eq_true hkind⟩)

end IsRead

/-- A record that is not read is malformed, and nothing else. -/
theorem code_of_ofRecord {freshId : String} {r : Value} {error : CatalogError}
    (h : ofRecord freshId r = .error error) : error.code = .validationMalformedRecord := by
  rw [ofRecord.eq_def] at h
  split at h
  · split at h
    · exact absurd h nofun
    · rw [← Except.error.inj h]; rfl
  · rw [← Except.error.inj h]; rfl

end Element

end CodeCatalog
