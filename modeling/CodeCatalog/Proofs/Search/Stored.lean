/-
What a document stores of an element, field by field, and what comes back of it.

The projection adds its fields one after another, each behind a test of its own: a parent that is
absent, a text that is empty and an empty list are left out, and so is what the variant does not
have. `stored?` says the same without the order, one field at a time, so a field comes once or not
at all (`values_projection`). A summary is made of ten of the fields. As each of them tells whether
its value was absent or empty, elements of one summary agree in all that it tells, and in nothing
else (`summary_eq_iff`).
-/
import CodeCatalog.Proofs.Search.Document

set_option autoImplicit false

namespace CodeCatalog.Search

variable {e e' : Element} {d d' : Document}

/-! ## One field

What is stored of an element in a field is told apart from how a document is put together, and the
document has just that. -/

/-- A text that is not empty. -/
def nonEmpty (s : String) : Option String :=
  if s = "" then none else some s

/-- The parameters of a member; no other element has any. -/
def parametersOf (e : Element) : List Parameter :=
  match e.payload with
  | .member _ info => info.parameters
  | _ => []

/-- The name of a member's type; no other element has one. -/
def typeNameOf (e : Element) : String :=
  match e.payload with
  | .member _ info => info.typeName
  | _ => ""

/-- What the document of an element stores under a field. -/
def stored? (e : Element) : DocField → Option Stored
  | .id => some (.text e.id)
  | .name => some (.text e.name)
  | .fullName => some (.text e.fullName)
  | .elementType => some (.text e.kind.name)
  | .parentId => e.parentId.map .text
  | .accessModifier => (nonEmpty e.accessModifier).map .text
  | .modifiers => if e.modifiers = [] then none else some (.text (" ".intercalate e.modifiers))
  | .documentation => (nonEmpty e.documentation).map .text
  | .parameters =>
    if parametersOf e = [] then none else some (.text (formatParameters (parametersOf e)))
  | .returnType => (nonEmpty (typeNameOf e)).map .text
  | .filePath => some (.text e.location.filePath)
  | .lineNumber => some (.whole e.location.startLine)
  | .contentHash => some (.text e.contentHash)

/-- Only the empty text is left out. -/
theorem nonEmpty_eq_none_iff {s : String} : nonEmpty s = none ↔ s = "" := by
  by_cases hs : s = ""
  · simp [nonEmpty, hs]
  · simp [nonEmpty, hs]

/-- No two texts are stored alike, the one left out included. -/
theorem nonEmpty_injective : Function.Injective nonEmpty := by
  intro s t h
  by_cases hs : s = ""
  · rw [hs, nonEmpty_eq_none_iff.mpr rfl] at h
    rw [hs, nonEmpty_eq_none_iff.mp h.symm]
  · rw [nonEmpty, if_neg hs] at h
    by_cases ht : t = ""
    · rw [nonEmpty_eq_none_iff.mpr ht] at h
      exact absurd h nofun
    · rw [nonEmpty, if_neg ht] at h
      exact Option.some.inj h

theorem returnType?_eq (e : Element) : e.returnType? = nonEmpty (typeNameOf e) := by
  rw [Element.returnType?, typeNameOf]
  cases e.payload <;> rfl

/-- Parameters are stored by members only, as one text. -/
theorem partValues_payloadPart_parameters (e : Element) :
    partValues (payloadPart e.payload) .parameters = (stored? e .parameters).toList := by
  rw [stored?, parametersOf]
  rcases e.payload with i | ⟨k, i⟩ | ⟨k, i⟩ | _ | _
  · rfl
  · rfl
  · rw [payloadPart, partValues_append, partValues_unlessEmpty, if_neg (by simp), List.nil_append]
    dsimp only
    -- no parameters are no value, not an empty text
    by_cases hp : i.parameters = []
    · simp [partValues, Document.values, hp]
    · simp [partValues, Document.values, hp]
  · rfl
  · rfl

/-- **A field comes once or not at all**, with the value of the element. -/
theorem values_projection (e : Element) (f : DocField) :
    (projection e).values f = (stored? e f).toList := by
  -- what only some elements have stands among the optional fields, or comes from the payload
  have hoptional : f ∈ [DocField.modifiers, .documentation] →
      (projection e).values f = partValues (Document.optionalFields e) f := by
    intro hf
    simp only [List.mem_cons, List.not_mem_nil, or_false] at hf
    have hcommon : partValues (Document.commonFields e) f = [] := by
      rcases hf with rfl | rfl <;> rfl
    have hpayload : partValues (payloadPart e.payload) f = [] := by
      rcases hf with rfl | rfl <;> rw [partValues_payloadPart _ (by decide)] <;>
        cases e.payload <;> simp
    rw [values_eq, hcommon, hpayload, List.nil_append, List.append_nil]
  cases f with
  | id => exact values_id e
  | name => exact values_name e
  | fullName => exact values_fullName e
  | elementType => exact values_elementType e
  | filePath => exact values_common e (by simp)
  | lineNumber => exact values_common e (by simp)
  | contentHash => exact values_common e (by simp)
  | parentId =>
    rw [values_parentId, stored?]
    cases e.parentId <;> rfl
  | accessModifier =>
    rw [values_accessModifier, stored?, nonEmpty]
    split_ifs <;> rfl
  | returnType =>
    rw [values_returnType, returnType?_eq, stored?]
    cases nonEmpty (typeNameOf e) <;> rfl
  | modifiers =>
    rw [hoptional (by simp), partValues_optionalFields, stored?]
    by_cases hm : e.modifiers = []
    · simp [hm]
    · simp [hm]
  | documentation =>
    rw [hoptional (by simp), partValues_optionalFields, stored?, nonEmpty]
    by_cases hd : e.documentation = ""
    · simp [hd]
    · simp [hd]
  | parameters =>
    have hcommon : partValues (Document.commonFields e) .parameters = [] := rfl
    have hrest : partValues (Document.optionalFields e) .parameters = [] := by
      rw [partValues_optionalFields]
      simp
    rw [values_eq, hcommon, hrest, partValues_payloadPart_parameters]
    rfl

theorem values_eq_nil_iff (e : Element) (f : DocField) :
    (projection e).values f = [] ↔ stored? e f = none := by
  rw [values_projection, Option.toList_eq_nil_iff]

/-! ## Summaries

Two elements have the same summary just if they agree in what a summary tells. -/

/-- Elements that agree in all that a summary tells. The rest of the location, documentation,
modifiers, parameters, the version and everything else that a payload holds are free. -/
structure SameInSummary (e e' : Element) : Prop where
  id : e.id = e'.id
  name : e.name = e'.name
  fullName : e.fullName = e'.fullName
  kind : e.kind = e'.kind
  parentId : e.parentId = e'.parentId
  accessModifier : e.accessModifier = e'.accessModifier
  filePath : e.location.filePath = e'.location.filePath
  startLine : e.location.startLine = e'.location.startLine
  typeName : typeNameOf e = typeNameOf e'
  contentHash : e.contentHash = e'.contentHash

/-- **A summary tells what it tells and nothing else.** -/
theorem summary_eq_iff : Summary.ofElement e = Summary.ofElement e' ↔ SameInSummary e e' := by
  have hreturn : ∀ e : Element, (Summary.ofElement e).returnType = nonEmpty (typeNameOf e) :=
    returnType?_eq
  have haccess : ∀ e : Element, (Summary.ofElement e).accessModifier = nonEmpty e.accessModifier :=
    fun _ => rfl
  constructor
  -- a summary tells nine of its fields apart as they are, and two only up to the empty text
  · intro h
    refine ⟨congrArg Summary.id h, congrArg Summary.name h, congrArg Summary.fullName h,
      congrArg Summary.kind h, congrArg Summary.parentId h, ?_, congrArg Summary.filePath h,
      congrArg Summary.lineNumber h, ?_, congrArg Summary.contentHash h⟩
    · apply nonEmpty_injective
      rw [← haccess, h, haccess]
    · apply nonEmpty_injective
      rw [← hreturn, h, hreturn]
  · intro h
    rw [Summary.ofElement, Summary.ofElement, returnType?_eq, returnType?_eq, h.id, h.name,
      h.fullName, h.kind, h.parentId, h.accessModifier, h.filePath, h.startLine, h.typeName,
      h.contentHash]

/-! ## Documents

A document mirrors its element: each field has what it should have, and nothing where that is empty.
-/

/-- **What the document of an element is like**: each field comes at most once; a field is left out
just if the element has no value for it, and never if every element has one; and the summary that is
read back has the values of the element, where an empty access modifier and an empty type name count
as none. -/
structure Mirrors (e : Element) (d : Document) : Prop where
  once : ∀ f, (d.values f).length ≤ 1
  common : ∀ f ∈
    [DocField.id, .name, .fullName, .elementType, .filePath, .lineNumber, .contentHash],
    d.values f ≠ []
  parentId : d.values .parentId = [] ↔ e.parentId = none
  accessModifier : d.values .accessModifier = [] ↔ e.accessModifier = ""
  modifiers : d.values .modifiers = [] ↔ e.modifiers = []
  documentation : d.values .documentation = [] ↔ e.documentation = ""
  returnType : d.values .returnType = [] ↔ typeNameOf e = ""
  parameters : d.values .parameters = [] ↔ parametersOf e = []
  summary : d.summary = .ok {
    id := e.id, name := e.name, fullName := e.fullName, kind := e.kind, parentId := e.parentId,
    accessModifier := nonEmpty e.accessModifier, filePath := e.location.filePath,
    lineNumber := e.location.startLine, returnType := nonEmpty (typeNameOf e),
    contentHash := e.contentHash }

/-- The projection of an element mirrors it, field by field. -/
theorem mirrors_projection (e : Element) : Mirrors e (projection e) where
  once f := by
    rw [values_projection]
    cases stored? e f <;> simp
  common f hf := by
    rw [ne_eq, values_eq_nil_iff]
    -- the seven common fields are never left out, also when they are empty
    simp only [List.mem_cons, List.not_mem_nil, or_false] at hf
    rcases hf with rfl | rfl | rfl | rfl | rfl | rfl | rfl <;> exact nofun
  parentId := by rw [values_eq_nil_iff, stored?, Option.map_eq_none_iff]
  accessModifier := by rw [values_eq_nil_iff, stored?, Option.map_eq_none_iff, nonEmpty_eq_none_iff]
  modifiers := by simp [values_eq_nil_iff, stored?]
  documentation := by rw [values_eq_nil_iff, stored?, Option.map_eq_none_iff, nonEmpty_eq_none_iff]
  returnType := by rw [values_eq_nil_iff, stored?, Option.map_eq_none_iff, nonEmpty_eq_none_iff]
  parameters := by simp [values_eq_nil_iff, stored?]
  summary := by
    rw [summary_projection, Summary.ofElement, returnType?_eq]
    rfl

/-- **The round trip of a document.** Every element of the four variants at a line of 64 bits has a
document, which mirrors it; and the documents of two elements have one summary just if the elements
agree in all that a summary tells. -/
theorem ofElement_mirrors (e : Element) (hown : e.payload.isForeign = false)
    (hline : minLong ≤ e.location.startLine ∧ e.location.startLine ≤ maxLong) :
    ∃ d, Document.ofElement e = .ok d ∧ Mirrors e d ∧
      ∀ e' d', Document.ofElement e' = .ok d' → (d.summary = d'.summary ↔ SameInSummary e e') := by
  have hindexable : Indexable e := ⟨hown, decide_eq_true hline⟩
  refine ⟨projection e, ofElement_projection hindexable, mirrors_projection e, fun e' d' hd' => ?_⟩
  rw [ofElement_ok hd', summary_projection, summary_projection, Except.ok.injEq, summary_eq_iff]

/-- A member whose parent is the empty text, with an empty modifier and a parameter, at the last
line that there can be. -/
theorem ofElement_mirrors_member :
    let e : Element := {
      id := "a", name := "run", parentId := some "", modifiers := [""]
      location := { startLine := 9223372036854775807 }
      payload := .member .method { parameters := [{ name := "x" }] } }
    ∃ d, Document.ofElement e = .ok d ∧ Mirrors e d ∧ d.values .parentId = [.text ""] ∧
      d.values .modifiers = [.text ""] ∧ d.values .parameters = [.text " x"] := by
  intro e
  -- the start line is the greatest that a document takes, and the empty parent id is a value of its
  -- own
  obtain ⟨d, hd, hmirrors, -⟩ := ofElement_mirrors e rfl (by decide)
  have hvalues := ofElement_ok hd
  refine ⟨d, hd, hmirrors, ?_, ?_, ?_⟩
  · rw [hvalues]
    exact values_projection e .parentId
  · rw [hvalues]
    exact values_projection e .modifiers
  · rw [hvalues]
    exact values_projection e .parameters

end CodeCatalog.Search
