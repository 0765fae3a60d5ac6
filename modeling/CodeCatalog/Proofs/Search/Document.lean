/-
What the document of an element holds, and what is read back from it.

The projection lists its fields one after another and leaves out those that an element lacks, so a
field is read back by looking through the three parts of the list. Every field that a summary asks
for comes at most once, which makes its first value the only one; the summary that a document stores
is therefore the summary of the element it was made of.
-/
import CodeCatalog.Proofs.Element.Record
import CodeCatalog.Search.Document
import Mathlib.Tactic

set_option autoImplicit false

namespace CodeCatalog.Search

variable {e : Element} {d : Document}

/-! ## The projection

A document is a list of fields with values. An element is projected field by field, and can be
indexed if its line fits the numbers of the index and its payload is one of this program's own. -/

/-- The fields that the payload of an element of the four variants adds. -/
def payloadPart : Payload → List (DocField × Stored)
  | .member _ info =>
    Document.unlessEmpty .returnType info.typeName ++
      if info.parameters.isEmpty then []
      else [(.parameters, .text (formatParameters info.parameters))]
  | _ => []

/-- An element that the index takes: one of the four variants, at a line that fits 64 bits. -/
structure Indexable (e : Element) : Prop where
  own : e.payload.isForeign = false
  line : fitsLong e.location.startLine = true

/-- The document of an element that the index takes. -/
def projection (e : Element) : Document :=
  ⟨Document.commonFields e ++ Document.optionalFields e ++ payloadPart e.payload⟩

/-- The payload of an element that was read has its fields. -/
theorem payloadFields_of_own {p : Payload} (h : p.isForeign = false) :
    Document.payloadFields p = .ok (payloadPart p) := by
  rcases p with i | ⟨k, i⟩ | ⟨k, i⟩ | _ | _
  · rfl
  · rfl
  · rfl
  · rfl
  · exact absurd h (by simp [Payload.isForeign])

theorem ofElement_projection (h : Indexable e) : Document.ofElement e = .ok (projection e) := by
  rw [Document.ofElement, if_pos h.line, payloadFields_of_own h.own]
  rfl

/-- What has a document is taken by the index. -/
theorem indexable_of_ok (h : Document.ofElement e = .ok d) : Indexable e := by
  rw [Document.ofElement] at h
  split_ifs at h with hline
  refine ⟨?_, hline⟩
  -- only the payload of another program is refused
  rcases hpayload : e.payload with i | ⟨k, i⟩ | ⟨k, i⟩ | _ | ⟨name, k, _ | v⟩
  · rfl
  · rfl
  · rfl
  · rfl
  · rw [hpayload] at h
    exact absurd h nofun
  · rw [hpayload] at h
    exact absurd h nofun

theorem ofElement_ok (h : Document.ofElement e = .ok d) : d = projection e := by
  rw [ofElement_projection (indexable_of_ok h)] at h
  exact (Except.ok.inj h).symm

/-- The values of a part of a document's fields. -/
def partValues (part : List (DocField × Stored)) (f : DocField) : List Stored :=
  (Document.mk part).values f

theorem partValues_append (xs ys : List (DocField × Stored)) (f : DocField) :
    partValues (xs ++ ys) f = partValues xs f ++ partValues ys f :=
  List.filterMap_append

/-- A text that may be left out is there unless it is empty. -/
theorem partValues_unlessEmpty (f g : DocField) (s : String) :
    partValues (Document.unlessEmpty g s) f = if g = f ∧ s ≠ "" then [.text s] else [] := by
  by_cases hs : s = ""
  · simp [Document.unlessEmpty, partValues, Document.values, hs]
  · by_cases hg : g = f
    · simp [Document.unlessEmpty, partValues, Document.values, hs, hg]
    · simp [Document.unlessEmpty, partValues, Document.values, hs, hg]

/-- The values of a document come from what every element has, what it may have, and its payload. -/
theorem values_eq (e : Element) (f : DocField) :
    (projection e).values f = partValues (Document.commonFields e) f ++
      partValues (Document.optionalFields e) f ++ partValues (payloadPart e.payload) f := by
  rw [← partValues_append, ← partValues_append]
  rfl

/-- What an element may have stands in four fields. -/
theorem partValues_optionalFields (e : Element) (f : DocField) :
    partValues (Document.optionalFields e) f =
      (if f = .parentId then e.parentId.toList.map .text else []) ++
      (if .accessModifier = f ∧ e.accessModifier ≠ "" then [.text e.accessModifier] else []) ++
      (if f = .modifiers ∧ e.modifiers ≠ [] then [.text (" ".intercalate e.modifiers)] else []) ++
      (if .documentation = f ∧ e.documentation ≠ "" then [.text e.documentation] else []) := by
  -- modifiers are joined to one text, and an empty list of them to none
  have hmodifiers : partValues (if e.modifiers.isEmpty then []
      else [(.modifiers, .text (" ".intercalate e.modifiers))]) f =
        if f = .modifiers ∧ e.modifiers ≠ [] then [.text (" ".intercalate e.modifiers)]
        else [] := by
    rcases e.modifiers with _ | ⟨m, ms⟩
    · simp [partValues, Document.values]
    · by_cases hf : f = .modifiers
      · simp [partValues, Document.values, hf]
      · simp [partValues, Document.values, hf, Ne.symm hf]
  rw [Document.optionalFields, partValues_append, partValues_append, partValues_append, hmodifiers,
    partValues_unlessEmpty, partValues_unlessEmpty]
  rcases e.parentId with _ | p
  · simp [partValues, Document.values]
  · by_cases hf : f = .parentId
    · simp [partValues, Document.values, hf]
    · simp [partValues, Document.values, hf, Ne.symm hf]

/-- Of a payload only a member's type stands in a field, besides the parameters. -/
theorem partValues_payloadPart (p : Payload) {f : DocField} (hparameters : f ≠ .parameters) :
    partValues (payloadPart p) f = match p with
      | .member _ info =>
        if .returnType = f ∧ info.typeName ≠ "" then [.text info.typeName] else []
      | _ => [] := by
  rcases p with i | ⟨k, i⟩ | ⟨k, i⟩ | _ | _
  · rfl
  · rfl
  -- only a member has parameters, and they stand in a field of their own
  · have hlast : partValues (if i.parameters.isEmpty then []
        else [(.parameters, .text (formatParameters i.parameters))]) f = [] := by
      split_ifs
      · rfl
      · simp [partValues, Document.values, hparameters.symm]
    rw [payloadPart, partValues_append, partValues_unlessEmpty, hlast, List.append_nil]
  · rfl
  · rfl

/-! ## What is read back

From the document of an element its summary is read back, whatever is left out because it is empty.
-/

/-- The fields that every element has come once, and nothing else is stored under them. -/
theorem values_common (e : Element) {f : DocField}
    (hf : f ∈ [DocField.id, .name, .fullName, .elementType, .contentHash, .filePath, .lineNumber]) :
    (projection e).values f = partValues (Document.commonFields e) f := by
  simp only [List.mem_cons, List.not_mem_nil, or_false] at hf
  -- the other parts of the list have no such field
  have hrest : partValues (Document.optionalFields e) f = [] ∧
      partValues (payloadPart e.payload) f = [] := by
    rw [partValues_optionalFields]
    rcases hf with rfl | rfl | rfl | rfl | rfl | rfl | rfl <;>
      rw [partValues_payloadPart _ (by decide)] <;> cases e.payload <;> simp
  rw [values_eq, hrest.1, hrest.2, List.append_nil, List.append_nil]

theorem values_id (e : Element) : (projection e).values .id = [.text e.id] :=
  values_common e (by simp)

theorem values_name (e : Element) : (projection e).values .name = [.text e.name] :=
  values_common e (by simp)

theorem values_fullName (e : Element) : (projection e).values .fullName = [.text e.fullName] :=
  values_common e (by simp)

theorem values_elementType (e : Element) :
    (projection e).values .elementType = [.text e.kind.name] :=
  values_common e (by simp)

/-- The parent is stored if there is one. -/
theorem values_parentId (e : Element) :
    (projection e).values .parentId = e.parentId.toList.map .text := by
  rw [values_eq, partValues_optionalFields, partValues_payloadPart _ (by decide)]
  cases e.payload <;> simp [partValues, Document.values, Document.commonFields]

/-- The access is stored unless it is empty. -/
theorem values_accessModifier (e : Element) : (projection e).values .accessModifier =
    if e.accessModifier = "" then [] else [.text e.accessModifier] := by
  rw [values_eq, partValues_optionalFields, partValues_payloadPart _ (by decide)]
  cases e.payload <;> simp [partValues, Document.values, Document.commonFields]

/-- The type is stored if the variant has one that is not empty. -/
theorem values_returnType (e : Element) :
    (projection e).values .returnType = e.returnType?.toList.map .text := by
  rw [values_eq, partValues_optionalFields, partValues_payloadPart _ (by decide),
    Element.returnType?]
  rcases e.payload with i | ⟨k, i⟩ | ⟨k, i⟩ | _ | _
  · simp [partValues, Document.values, Document.commonFields]
  · simp [partValues, Document.values, Document.commonFields]
  · by_cases htype : i.typeName = ""
    · simp [partValues, Document.values, Document.commonFields, htype]
    · simp [partValues, Document.values, Document.commonFields, htype]
  · simp [partValues, Document.values, Document.commonFields]
  · simp [partValues, Document.values, Document.commonFields]

/-- **The summary that a document stores is the summary of its element.** -/
theorem summary_projection (e : Element) :
    (projection e).summary = .ok (Summary.ofElement e) := by
  -- a summary takes the first value of a field, and there is at most one
  have htext : ∀ (f : DocField) (s : String), (projection e).values f = [.text s] →
      (projection e).text? f = some s := by
    intro f s hf
    rw [Document.text?, Document.first?, hf]
    rfl
  have hoptional : ∀ (f : DocField) (o : Option String),
      (projection e).values f = o.toList.map .text → (projection e).text? f = o := by
    intro f o hf
    rw [Document.text?, Document.first?, hf]
    cases o <;> rfl
  have haccess : (projection e).text? .accessModifier =
      if e.accessModifier = "" then none else some e.accessModifier := by
    refine hoptional _ _ ((values_accessModifier e).trans ?_)
    split_ifs <;> rfl
  have hkind : (projection e).kind = .ok e.kind := by
    rw [Document.kind, Document.first?, values_elementType]
    simp only [List.head?_cons, Element.ofName?_name]
  have hline : (projection e).lineNumber = .ok e.location.startLine := by
    rw [Document.lineNumber, Document.first?, values_common e (by simp)]
    rfl
  rw [Document.summary, hkind, hline]
  simp only [bind, Except.bind, pure, Except.pure, htext _ _ (values_id e),
    htext _ _ (values_name e),
    htext .fullName e.fullName (values_common e (by simp)),
    htext .contentHash e.contentHash (values_common e (by simp)),
    htext .filePath e.location.filePath (values_common e (by simp)),
    hoptional _ _ (values_parentId e), hoptional _ _ (values_returnType e), haccess,
    Option.getD_some]
  rfl

/-- Elements of one document have one summary. -/
theorem summary_congr {e e' : Element} (h : projection e = projection e') :
    Summary.ofElement e = Summary.ofElement e' := by
  have hsummary := summary_projection e
  rw [h, summary_projection] at hsummary
  exact (Except.ok.inj hsummary).symm

/-! ## What is found under its fields

The terms of a field are what a clause looks for. A field that is indexed as a whole has its value
for its only term, unless that is too long for a term. -/

/-- A value is a term unless it is too long. -/
theorem mem_terms_iff {f : DocField} (hf : f ≠ .name) {v : String}
    (hv : v.utf8ByteSize < Document.maxValueBytes) (d : Document) :
    v ∈ d.terms f ↔ Stored.text v ∈ d.values f := by
  have hterms : d.terms f = (d.texts f).filter (·.utf8ByteSize < Document.maxValueBytes) := by
    cases f <;> first | rfl | exact absurd rfl hf
  rw [hterms, List.mem_filter, decide_eq_true_eq, and_iff_left hv, Document.texts,
    List.mem_filterMap]
  -- only a text is a term, and no field but the name is cut into words
  constructor
  · rintro ⟨_ | n, hmem, h⟩
    · rw [← Option.some.inj h]
      exact hmem
    · exact absurd h nofun
  · exact fun hmem => ⟨_, hmem, rfl⟩

/-- Names of kinds are short enough to be terms. -/
theorem utf8ByteSize_kind (k : Kind) : k.name.utf8ByteSize < Document.maxValueBytes := by
  rcases k with _ | k | k | _
  · decide
  · cases k <;> decide
  · cases k <;> decide
  · decide

/-- A name is found by its words. -/
theorem terms_name (e : Element) : (projection e).terms .name = indexTerms e.name := by
  show ((projection e).texts .name).flatMap indexTerms = _
  rw [Document.texts, values_name]
  exact List.append_nil _

/-- No two kinds have one name. -/
theorem kind_name_injective : Function.Injective Kind.name := by
  intro k k' h
  have hkind := congrArg Kind.ofName? h
  rw [Element.ofName?_name, Element.ofName?_name] at hkind
  exact Option.some.inj hkind

/-- An element is found under the name of its kind alone. -/
theorem mem_terms_kind {k : Kind} :
    k.name ∈ (projection e).terms .elementType ↔ e.kind = k := by
  rw [mem_terms_iff (by decide) (utf8ByteSize_kind k), values_elementType, List.mem_singleton,
    Stored.text.injEq, kind_name_injective.eq_iff, eq_comm]

theorem mem_terms_fullName {v : String} (hv : v.utf8ByteSize < Document.maxValueBytes) :
    v ∈ (projection e).terms .fullName ↔ e.fullName = v := by
  rw [mem_terms_iff (by decide) hv, values_fullName, List.mem_singleton, Stored.text.injEq, eq_comm]

/-- An element is found under the id of its parent. -/
theorem mem_terms_parentId {v : String} (hv : v.utf8ByteSize < Document.maxValueBytes) :
    v ∈ (projection e).terms .parentId ↔ e.parentId = some v := by
  rw [mem_terms_iff (by decide) hv, values_parentId]
  simp [eq_comm]

/-- An element is found under its type, as a whole. -/
theorem mem_terms_returnType {v : String} (hv : v.utf8ByteSize < Document.maxValueBytes) :
    v ∈ (projection e).terms .returnType ↔ e.returnType? = some v := by
  rw [mem_terms_iff (by decide) hv, values_returnType]
  simp [eq_comm]

/-- An access modifier that an element lacks is stored nowhere. -/
theorem mem_terms_accessModifier {v : String} (hv : v.utf8ByteSize < Document.maxValueBytes) :
    v ∈ (projection e).terms .accessModifier ↔ (Summary.ofElement e).accessModifier = some v := by
  have haccess : (Summary.ofElement e).accessModifier =
      if e.accessModifier = "" then none else some e.accessModifier := rfl
  rw [mem_terms_iff (by decide) hv, values_accessModifier, haccess]
  by_cases he : e.accessModifier = ""
  · simp [he]
  · simp [he, eq_comm]

end CodeCatalog.Search
