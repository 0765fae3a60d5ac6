/-
Which records can be built.

A record that is accepted makes an element of one of the four variants, and every one of its fields
has a projection but one: whole numbers have no bounds in a record, and the line where the element
starts goes into a field of 64 bits. So the accepted records whose elements the index refuses are
those that tell a line beyond that (`projects_iff`). Without them there is nothing that a build of
accepted records could fail of but the engine, and with an engine that serves, the build returns.
-/
import CodeCatalog.Proofs.Catalog.Agreement
import CodeCatalog.Proofs.Element.Reading
import CodeCatalog.Proofs.Search.Keyed

set_option autoImplicit false

namespace CodeCatalog

open Json

/-! ## The elements of accepted records

A record that is accepted gives an element that the index takes, as long as its line fits the
numbers of the index and its texts are not too long. Nothing else of a record can keep its element
out. -/

/-- The line where the element of a record starts. -/
def startLine (record : Value) : Int :=
  match record.get? "location" with
  | some (.object location) => Fields.whole location "start_line"
  | _ => 0

namespace Element

/-- The line of a location that was read is the one that the record has. -/
theorem readLocation_startLine {kind : Kind} {fields : Fields} {l : Location}
    (h : readLocation kind fields = .ok l) : l.startLine = startLine (.object fields) := by
  rw [readLocation] at h
  rw [startLine, Value.get?, ← Fields.get?]
  -- without a location the start line is the default on both sides
  split at h
  · rename_i hget
    rw [hget, ← Except.ok.inj h]
  · rename_i location hget
    obtain ⟨_, -, h⟩ := exists_of_bind_ok h
    obtain ⟨_, -, h⟩ := exists_of_bind_ok h
    rw [hget, ← Except.ok.inj h]
    rfl
  · cases h

/-- **Accepted records.** Their elements are of one of the four variants and start at the line that
the record tells. -/
theorem ofRecord_spec {freshId : String} {record : Value} {e : Element}
    (h : ofRecord freshId record = .ok e) :
    e.payload.isForeign = false ∧ e.location.startLine = startLine record := by
  obtain ⟨fields, rfl, hread⟩ := isRead_of_ofRecord h
  refine ⟨hread.isForeign, ?_⟩
  -- the kind is read apart from the other fields
  have hget : (Fields.erase fields "kind").get? "location" = Fields.get? fields "location" :=
    get?_erase (by decide)
  have hline : e.location.startLine = startLine (.object (Fields.erase fields "kind")) :=
    readLocation_startLine hread.location
  rw [startLine, Value.get?, ← Fields.get?, hget] at hline
  exact hline

end Element

namespace Search

/-- **The domain of the projection.** The element of an accepted record has a document exactly if
the line that the record tells fits 64 bits. -/
theorem projects_iff {freshId : String} {record : Value} {e : Element}
    (h : Element.ofRecord freshId record = .ok e) :
    (∃ d, Document.ofElement e = .ok d) ↔ fitsLong (startLine record) = true := by
  obtain ⟨hown, hline⟩ := Element.ofRecord_spec h
  rw [← hline]
  constructor
  · rintro ⟨d, hd⟩
    exact (indexable_of_ok hd).line
  · intro hfits
    exact ⟨_, ofElement_projection ⟨hown, hfits⟩⟩

end Search

namespace Catalog

open Act Search

variable {c : Catalog} {es : List Element}

/-! ## Builds that cannot fail

With elements that can all be indexed and an engine that is willing, no step of a build has a reason
to fail, and this is proved as such and not assumed. -/

/-- A store takes all elements. -/
theorem addAll_elements (s : Store) (es : List Element) :
    (s.addAll (es.map fun e => .ok (some e))).2 = none := by
  induction es generalizing s with
  | nil => rfl
  | cons e es ih =>
    rw [List.map_cons, Store.addAll]
    exact ih (s.insert e)

/-- A catalogue's store is filled with any elements, and the index is left as it is. -/
theorem exists_fillStore (c : Catalog) (es : List Element) :
    ∃ t, (fillStore (es.map fun e => .ok (some e))).outcome { c with store := .empty } =
      (.ok (), t) ∧ Store.Records t.store es ∧ t.desk = c.desk := by
  have hfill := outcome_fillStore (es.map fun e => .ok (some e)) c
  have hfailure : Store.feedFailure? (es.map fun e => .ok (some e)) = none := by
    rw [← (Store.records_empty.addAll _).2]
    exact addAll_elements .empty es
  rw [hfailure] at hfill
  exact ⟨_, hfill, fillStore_outcome hfill⟩

/-- **A build of elements that have documents returns**, if the index is open and its engine has
been told to fail nowhere. -/
theorem exists_build (hopen : c.desk.index.isOpen = true) (hengine : c.desk.Unhindered)
    (hes : ∀ e ∈ es, ∃ d, Document.ofElement e = .ok d) :
    ∃ n t, (build (es.map fun e => .ok (some e))).outcome c = (.ok n, t) := by
  obtain ⟨s, hs⟩ := Option.isSome_iff_exists.mp hopen
  obtain ⟨filled, hfill, hrecords, hdesk⟩ := exists_fillStore c es
  -- what the store has are some of the elements
  have hstored : ∀ e ∈ filled.store.getAll, ∃ d, Document.ofElement e = .ok d := by
    rw [hrecords.reflects.getAll_eq_latest]
    exact fun e he => hes e (Store.mem_of_mem_latest he)
  obtain ⟨hrest, hwilling⟩ := hengine s hs
  have hholds : Desk.Holds True c.desk.shelf c.desk.index s.place s.engine.source.content
      filled.desk := by
    refine ⟨by rw [hdesk], s.engine, ?_, hrest, rfl, fun _ => hwilling⟩
    rw [hdesk, ← hs]
  obtain ⟨n, d, hbuild, -⟩ := (Desk.triple_buildIndex fun _ => hstored).exists_ok hholds
  have hindex : (onIndex (Desk.buildIndex (filled.store.getAll.map fun e => .ok (some e)))).outcome
      filled = (.ok n, { filled with desk := d }) := by
    rw [onIndex, outcome_onPart, hbuild]
  rw [build, outcome_bind_of_ok (outcome_modify _ c), outcome_bind_of_ok hfill,
    outcome_bind_of_ok (outcome_get filled), outcome_bind_of_ok hindex]
  exact ⟨n, _, rfl⟩

/-! ## Builds of records

A list of records, each of which describes an element, is built to just these elements. The two ends
of the range of lines are shown behind it. -/

/-- A record describes an element, with some id in place of one that is absent. -/
def Describes (record : Json.Value) (e : Element) : Prop :=
  ∃ freshId, Element.ofRecord freshId record = .ok e

/-- Each element has the record that describes it. -/
theorem exists_record {records : List Json.Value} (h : List.Forall₂ Describes records es) :
    ∀ e ∈ es, ∃ r ∈ records, Describes r e := by
  induction h with
  | nil => exact fun _ he => absurd he List.not_mem_nil
  | cons hhead _ ih =>
    rw [List.forall_mem_cons]
    refine ⟨⟨_, List.mem_cons_self, hhead⟩, fun e he => ?_⟩
    obtain ⟨r, hr, hdescribes⟩ := ih e he
    exact ⟨r, List.mem_cons_of_mem _ hr, hdescribes⟩

/-- **Every accepted record can be built** whose line fits 64 bits: any store takes the elements,
each has a document, and a build of them returns in any state in which the index is open and its
engine fails nowhere. It leaves one document for each distinct id. -/
theorem build_of_records (shelf : Shelf) (path : Path) (index : IndexSettings)
    (limits : LimitSettings) (before : List Call) (records : List Json.Value) (es : List Element)
    (hdescribes : List.Forall₂ Describes records es)
    (hlines : ∀ r ∈ records, fitsLong (startLine r) = true) :
    (∀ s : Store, (s.addAll (es.map fun e => .ok (some e))).2 = none) ∧
    (∀ e ∈ es, ∃ d, Document.ofElement e = .ok d) ∧
    let c := (new shelf path index limits).run before
    (c.desk.index.isOpen = true → c.desk.Unhindered →
      ∃ t, (build (es.map fun e => .ok (some e))).outcome c =
          (.ok (es.map (·.id)).eraseDups.length, t) ∧ t.Agrees es) := by
  -- an element read from a record has the lines of the record, so it fits a document
  have hes : ∀ e ∈ es, ∃ d, Document.ofElement e = .ok d := by
    intro e he
    obtain ⟨r, hr, freshId, hread⟩ := exists_record hdescribes e he
    exact (projects_iff hread).mpr (hlines r hr)
  refine ⟨fun s => addAll_elements s es, hes, fun hopen hengine => ?_⟩
  obtain ⟨n, t, hbuild⟩ := exists_build hopen hengine hes
  obtain ⟨rfl, -, hagrees⟩ := build_agrees shelf path index limits before es n t hbuild
  exact ⟨t, hbuild, hagrees [] fun _ hx => absurd hx List.not_mem_nil⟩

/-- The record of a class. -/
def classRecord (id : String) (line : Int) : Json.Value :=
  .object [("kind", .text "Class"), ("id", .text id), ("name", .text "A"),
    ("location", .object [("start_line", .int line)])]

/-- The element of that record. -/
def classElement (id : String) (line : Int) : Element :=
  { id := id, name := "A", location := { startLine := line }, payload := .type .classType {} }

theorem describes_class (id : String) (line : Int) :
    Describes (classRecord id line) (classElement id line) :=
  ⟨"", rfl⟩

/-- Three records with two ids, one at the last line that fits. -/
theorem build_of_records_last_line :
    let records := [classRecord "a" 3, classRecord "b" 9223372036854775807, classRecord "a" (-1)]
    let es := [classElement "a" 3, classElement "b" 9223372036854775807, classElement "a" (-1)]
    List.Forall₂ Describes records es ∧
      ∃ t, (build (es.map fun e => .ok (some e))).outcome
          ((new {} ⟨1, ["index"]⟩ {} {}).run [.openIndex]) = (.ok 2, t) ∧ t.Agrees es := by
  intro records es
  have hdescribes : List.Forall₂ Describes records es :=
    .cons (describes_class _ _) (.cons (describes_class _ _) (.cons (describes_class _ _) .nil))
  refine ⟨hdescribes, ?_⟩
  obtain ⟨-, -, h⟩ := build_of_records {} ⟨1, ["index"]⟩ {} {} [.openIndex] records es hdescribes
    (by decide)
  -- an engine that nobody has told to fail is willing
  refine h rfl fun s hs => ?_
  obtain rfl := Option.some.inj hs
  exact ⟨⟨rfl, rfl⟩, Engine.willing_start _ _⟩

/-- One line further, a record is accepted and fails the build of all. -/
theorem build_of_records_too_far :
    let records := [classRecord "a" 3, classRecord "b" 9223372036854775808]
    let es := [classElement "a" 3, classElement "b" 9223372036854775808]
    let start := (new {} ⟨1, ["index"]⟩ {} {}).run [.openIndex]
    List.Forall₂ Describes records es ∧ start.desk.index.isOpen = true ∧ start.desk.Unhindered ∧
      ((build (es.map fun e => .ok (some e))).outcome start).1 =
        .error (.catalog (.writeFailed "build_index" (Failure.fault .wholeTooWide).text)) := by
  intro records es start
  refine ⟨.cons (describes_class _ _) (.cons (describes_class _ _) .nil), rfl, fun s hs => ?_, ?_⟩
  · obtain rfl := Option.some.inj hs
    exact ⟨⟨rfl, rfl⟩, Engine.willing_start _ _⟩
  · rfl

end Catalog

end CodeCatalog
