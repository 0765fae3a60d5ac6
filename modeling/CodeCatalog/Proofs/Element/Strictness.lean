/-
No field of an accepted record holds a value of a wrong type.

The fields of a record are those of its variant, those of its location and those of its parameters
(`Holds`). An accepted record has only fields that its variant knows, and a name has the same type
whichever variant has it, so what it holds is of the declared type on every level. There is one
exception. Parameters that count as nothing are read as no parameters, whatever they are.
-/
import CodeCatalog.Proofs.Element.Reading

set_option autoImplicit false

namespace CodeCatalog

open Json

variable {name : String} {type : FieldType} {v : Value}

namespace Element

/-! ## Strictness

A record with a field of another type is refused, and the refusal names the field. This is the
converse of what accepted records satisfy, read off the declared types of their fields. -/

/-- **A field of a record**: one that some variant has, one of its location or one of a parameter,
with the type that is declared for it and the value that it holds. -/
inductive Holds (record : Fields) : (name : String) → (type : FieldType) → (v : Value) → Prop
  | own {variant : Variant} {name : String} {type : FieldType} {v : Value}
      (ht : (name, type) ∈ variant.fields) (hv : record.get? name = some v) :
      Holds record name type v
  | ofLocation {given : Fields} {name : String} {type : FieldType} {v : Value}
      (hgiven : record.get? "location" = some (.object given))
      (ht : (name, type) ∈ locationFields) (hv : given.get? name = some v) :
      Holds record name type v
  | ofParameter {items : List Value} {given : Fields} {name : String} {type : FieldType} {v : Value}
      (hitems : record.get? "parameters" = some (.list items)) (hgiven : .object given ∈ items)
      (ht : (name, type) ∈ parameterFields) (hv : given.get? name = some v) :
      Holds record name type v

/-- A name has one type, whichever variant has it. -/
theorem type_unique {a b : Variant} {s t : FieldType} (hs : (name, s) ∈ a.fields)
    (ht : (name, t) ∈ b.fields) : s = t := by
  have hall : ∀ x ∈ a.fields, ∀ y ∈ b.fields, x.1 = y.1 → x.2 = y.2 := by
    cases a <;> cases b <;> decide
  exact hall _ hs _ ht rfl

/-- What is nested in the record of a variant is a location or parameters. -/
theorem name_of_nested {variant : Variant} (h : (name, FieldType.nested) ∈ variant.fields) :
    name = "location" ∨ name = "parameters" := by
  have hall : ∀ t ∈ variant.fields, t.2 = .nested → t.1 = "location" ∨ t.1 = "parameters" := by
    cases variant <;> decide
  exact hall _ h rfl

theorem leaf_of_location : ∀ t ∈ locationFields, t.2 ≠ .nested := by decide

theorem leaf_of_parameter : ∀ t ∈ parameterFields, t.2 ≠ .nested := by decide

namespace IsRead

variable {freshId : String} {record : Fields} {e : Element}

/-- The fields of an accepted record hold values of their declared types. Parameters may be anything
that counts as nothing. -/
theorem declared_of_own (h : IsRead freshId record e) {variant : Variant}
    (ht : (name, type) ∈ variant.fields) (hv : record.get? name = some v)
    (hnothing : name = "parameters" → v.isNothing = false) : Declared name type v := by
  have hkind : name ≠ "kind" := by
    rintro rfl
    exact kind_not_mem_fields variant (List.mem_map_of_mem ht)
  -- the variant of the record has the field too, and with the same type
  obtain ⟨own, hown⟩ := h.known (mem_of_get? hv) hkind
  obtain rfl := type_unique hown ht
  have hget : (record.erase "kind").get? name = some v := (get?_erase hkind).trans hv
  by_cases hleaf : own = .nested
  · subst hleaf
    rcases name_of_nested hown with rfl | rfl
    · rcases readLocation_eq_ok h.location with ⟨hnone, -⟩ | ⟨given, hgiven, -, -⟩
      · exact absurd (hget.symm.trans hnone) nofun
      · rw [Option.some.inj (hget.symm.trans hgiven)]
        exact .location given
    · obtain ⟨ps, hps, -⟩ := h.payload
      rcases readParameters_eq_ok hps with ⟨hnone, -⟩ | ⟨w, hw, hfalsy, -⟩ | ⟨given, hgiven, -, -⟩
      · exact absurd (hget.symm.trans hnone) nofun
      · rw [← Option.some.inj (hget.symm.trans hw), hnothing rfl] at hfalsy
        exact absurd hfalsy nofun
      · rw [Option.some.inj (hget.symm.trans hgiven)]
        exact .parameters given
  · exact h.accepts.typed hown hleaf hget

/-- A field of an accepted location has a value of its declared type. -/
theorem declared_of_location (h : IsRead freshId record e) {given : Fields}
    (hgiven : record.get? "location" = some (.object given)) (ht : (name, type) ∈ locationFields)
    (hv : given.get? name = some v) : Declared name type v := by
  have hget : (record.erase "kind").get? "location" = some (.object given) :=
    (get?_erase (by decide)).trans hgiven
  rcases readLocation_eq_ok h.location with ⟨hnone, -⟩ | ⟨l, hl, haccepts, -⟩
  · exact absurd (hget.symm.trans hnone) nofun
  · obtain rfl := Value.object.inj (Option.some.inj (hget.symm.trans hl))
    exact haccepts.typed ht (leaf_of_location _ ht) hv

/-- A field of an accepted parameter has a value of its declared type. -/
theorem declared_of_parameter (h : IsRead freshId record e) {items : List Value} {given : Fields}
    (hitems : record.get? "parameters" = some (.list items)) (hgiven : .object given ∈ items)
    (ht : (name, type) ∈ parameterFields) (hv : given.get? name = some v) :
    Declared name type v := by
  have hget : (record.erase "kind").get? "parameters" = some (.list items) :=
    (get?_erase (by decide)).trans hitems
  obtain ⟨ps, hps, -⟩ := h.payload
  rcases readParameters_eq_ok hps with ⟨hnone, -⟩ | ⟨w, hw, hnothing, -⟩ | ⟨all, hall, haccepts, -⟩
  · exact absurd (hget.symm.trans hnone) nofun
  · -- a list that counts as nothing has no items
    rw [← Option.some.inj (hget.symm.trans hw)] at hnothing
    rw [List.isEmpty_iff.mp hnothing] at hgiven
    exact absurd hgiven List.not_mem_nil
  · rw [Value.list.inj (Option.some.inj (hget.symm.trans hall))] at hgiven
    obtain ⟨p, hp, hobject⟩ := List.mem_map.mp hgiven
    obtain rfl := Value.object.inj hobject
    exact (haccepts p hp).typed ht (leaf_of_parameter _ ht) hv

/-- **What an accepted record holds** is of the declared types, on every level. -/
theorem declared_of_holds (h : IsRead freshId record e) (hholds : Holds record name type v)
    (hnothing : name = "parameters" → v.isNothing = false) : Declared name type v := by
  cases hholds with
  | own ht hv => exact h.declared_of_own ht hv hnothing
  | ofLocation hgiven ht hv => exact h.declared_of_location hgiven ht hv
  | ofParameter hitems hgiven ht hv => exact h.declared_of_parameter hitems hgiven ht hv

end IsRead

/-- **Reading is strict.** A record that holds a value that is not of the declared type of its field
is refused as malformed, whatever else it holds, unless that value stands for parameters and counts
as nothing. -/
theorem ofRecord_strict (freshId : String) {record : Fields} (hholds : Holds record name type v)
    (hwrong : ¬ Declared name type v) (hnothing : name = "parameters" → v.isNothing = false) :
    ∃ error, ofRecord freshId (.object record) = .error error ∧
      error.code = .validationMalformedRecord := by
  rcases hread : ofRecord freshId (.object record) with error | e
  · exact ⟨error, rfl, code_of_ofRecord hread⟩
  · obtain ⟨_, hrecord, h⟩ := isRead_of_ofRecord hread
    obtain rfl := Value.object.inj hrecord
    exact absurd (h.declared_of_holds hholds hnothing) hwrong

/-- A method whose only parameter has a number for a name. -/
theorem ofRecord_strict_parameter :
    let record : Fields := [("kind", .text "Method"),
      ("parameters", .list [.object [("name", .int 1)]])]
    Holds record "name" .text (.int 1) ∧ ¬ Declared "name" .text (.int 1) ∧
      ∃ error, ofRecord "f" (.object record) = .error error ∧
        error.code = .validationMalformedRecord := by
  intro record
  have hholds : Holds record "name" .text (.int 1) :=
    .ofParameter rfl (List.mem_singleton.mpr rfl) (by decide) rfl
  have hwrong : ∀ name, ¬ Declared name .text (.int 1) := fun _ => nofun
  exact ⟨hholds, hwrong _, ofRecord_strict "f" hholds (hwrong _) (by decide)⟩

/-- Parameters that are false are no list of objects and not null, and yet their record is read. -/
theorem ofRecord_false_parameters :
    ∃ record : Fields, Holds record "parameters" .nested (.bool false) ∧
      ¬ Declared "parameters" .nested (.bool false) ∧
      ∃ e, ofRecord "f" (.object record) = .ok e := by
  have hwrong : ∀ name, ¬ Declared name .nested (.bool false) := fun _ => nofun
  exact ⟨[("kind", .text "Method"), ("parameters", .bool false)],
    @Holds.own _ .member _ _ _ (by decide) rfl, hwrong _, _, rfl⟩

end Element

end CodeCatalog
