/-
Which events a format has a line for.

As JSON every record can be written. A line for readers is followed by where the program was and by
what failed there, which are appended as they are, so they must be texts unless they are null or
missing; nothing else of a record stands in the way of its line. These two values are those of the
context of the event, since a record puts other keys over the context.
-/
import CodeCatalog.Log.Session
import Mathlib.Tactic

set_option autoImplicit false

namespace CodeCatalog

/-! ## Fields

What every record has is put over what the caller gave. Whether there is a line for a record depends
on two fields that are written below it. -/

namespace Json.Fields

variable {fields : Fields} {key k : String} {v : Value}

/-- What is put under another name changes nothing. -/
theorem get?_put_of_ne (h : k ≠ key) : (fields.put key v).get? k = fields.get? k := by
  rw [put]
  split
  · -- a field with the other key is not replaced
    have hkeys : (fun f : String × Value => decide (f.1 = k)) ∘
        (fun f => if f.1 = key then (key, v) else f) = fun f => decide (f.1 = k) := by
      funext f
      by_cases hf : f.1 = key
      · simp [hf]
      · simp [hf]
    rw [get?, get?, List.find?_map, hkeys]
    cases hfound : fields.find? fun f => decide (f.1 = k) with
    | none => simp
    | some f =>
      have hf : f.1 = k := by simpa using List.find?_some hfound
      simp [hf, h]
  · rw [get?, get?, List.find?_append]
    simp [h.symm]

/-- A field that is kept is found where others are left out. -/
theorem get?_filter (keep : String → Bool) (h : keep k = true) :
    Fields.get? (fields.filter fun f => keep f.1) k = fields.get? k := by
  rw [get?, get?, List.find?_filter]
  congr 2
  funext f
  by_cases hf : f.1 = k
  · simp [hf, h]
  · simp [hf]

/-- No field has one of two keys just if there is no value under either. -/
theorem isNone_find? (fields : Fields) (key k : String) :
    (fields.find? fun (name, _) => name = key || name = k).isNone =
      ((fields.get? key).isNone && (fields.get? k).isNone) := by
  rw [get?, get?, Option.isNone_map, Option.isNone_map]
  induction fields with
  | nil => rfl
  | cons f rest ih =>
    simp only [List.find?_cons]
    grind

end Json.Fields

namespace Log

open Json

variable {fields : Fields} {time key : String} {request : Option String} {e : Event}

/-- The keys that a record puts over the context of an event. -/
def recordKeys : List String := ["event", "level", "timestamp", "request_id"]

/-- A record has what its event was given, but for the fields that every record has. -/
theorem get?_record (h : key ∉ recordKeys) :
    (record time request e).get? key = e.context.get? key := by
  simp only [recordKeys, List.mem_cons, List.not_mem_nil, or_false, not_or] at h
  obtain ⟨hevent, hlevel, htime, hrequest⟩ := h
  have hfields : (((e.context.put "event" (.text e.name)).put "level" (.text e.level.name)).put
      "timestamp" (.text time)).get? key = e.context.get? key := by
    rw [Fields.get?_put_of_ne htime, Fields.get?_put_of_ne hlevel, Fields.get?_put_of_ne hevent]
  cases request with
  | none => exact hfields
  | some id => exact (Fields.get?_put_of_ne hrequest).trans hfields

/-- A value that can be appended to a line. -/
def isAppended : Value → Bool
  | .null => true
  | .text _ => true
  | _ => false

theorem isSome_below (v : Value) : (below v).toOption.isSome = isAppended v := by
  cases v <;> rfl

/-- Whether a format has a line for a record. -/
def hasLine (format : LogFormat) (fields : Fields) : Bool :=
  format = .json ||
    (isAppended ((fields.get? "stack").getD .null) &&
      isAppended ((fields.get? "exception").getD .null))

/-- Both what was called and what was raised have to be text or nothing. -/
theorem isSome_textBelow (fields : Fields) : (textBelow fields).toOption.isSome =
    (isAppended ((fields.get? "stack").getD .null) &&
      isAppended ((fields.get? "exception").getD .null)) := by
  rw [textBelow, ← isSome_below, ← isSome_below]
  rcases below ((fields.get? "stack").getD .null) with f | stack
  · rfl
  · rcases below ((fields.get? "exception").getD .null) with f | failure
    · rfl
    · rfl

/-- A sink drops its own notes and nothing else. -/
theorem get?_withoutNotes (h : key ∉ noteKeys) :
    Fields.get? (fields.filter fun f => !noteKeys.contains f.1) key = fields.get? key := by
  apply Fields.get?_filter fun key => !noteKeys.contains key
  simpa using h

/-- **A record has a line** in a format if what follows the line can be appended to it. -/
theorem isSome_formatted (format : LogFormat) (fields : Fields) :
    (formatted format fields).toOption.isSome = hasLine format fields := by
  cases format with
  | json => rfl
  | console =>
    -- in the reader's format only what stands below the line can fail
    have hline : (formatted .console fields).toOption.isSome =
        (textBelow (fields.filter fun f => !noteKeys.contains f.1)).toOption.isSome := by
      rw [formatted, readerLine]
      rcases textBelow (fields.filter fun f => !noteKeys.contains f.1) with f | text
      · rfl
      · rfl
    rw [hline, isSome_textBelow, get?_withoutNotes (by decide), get?_withoutNotes (by decide)]
    rfl

theorem hasLine_record (format : LogFormat) (time : String) (request : Option String) (e : Event) :
    hasLine format (record time request e) = hasLine format e.context := by
  rw [hasLine, hasLine, get?_record (by decide), get?_record (by decide)]

end Log

end CodeCatalog
