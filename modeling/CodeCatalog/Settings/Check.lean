/-
Checking data against the form of the settings.

A check either gives the settings or all problems, those of a section in the order of its settings.
A setting that is not there has its default, which is not checked. A section's own rule, that each
writing thread has enough memory, is looked at only when every setting in it is right. A fault ends
the check at once.

`CodeCatalog.Settings.toDatum` writes settings as data that pass the check again.
-/
import CodeCatalog.Decimal.Word
import CodeCatalog.Settings.Number
import CodeCatalog.Settings.Problem
import CodeCatalog.Storage.Path

set_option autoImplicit false

namespace CodeCatalog.Settings

/-- The outcome of a check: a value or problems, unless a fault ended it. -/
abbrev Check (α : Type) := Except Fault (Except (List Problem) α)

namespace Check

variable {α β : Type}

/-- The value is right. -/
def right (a : α) : Check α := .ok (.ok a)

/-- One thing is wrong with a datum. -/
def wrong (cause : Cause) (found : Datum) : Check α :=
  .ok (.error [{ cause, found }])

/-- The outcome as seen from one step further out. -/
def below (step : Step) (c : Check α) : Check α :=
  c.map fun r => r.mapError (·.map (Problem.below step))

/-- A function applied to a value, or the problems of both. The first fault counts. -/
def also (f : Check (α → β)) (a : Check α) : Check β :=
  match f, a with
  | .error fault, _ => .error fault
  | .ok _, .error fault => .error fault
  | .ok (.ok f), .ok (.ok a) => right (f a)
  | .ok (.ok _), .ok (.error ps) => .ok (.error ps)
  | .ok (.error ps), .ok (.ok _) => .ok (.error ps)
  | .ok (.error ps), .ok (.error qs) => .ok (.error (ps ++ qs))

/-- A further check of a value that is right. -/
def andThen (c : Check α) (next : α → Check β) : Check β :=
  match c with
  | .error fault => .error fault
  | .ok (.error ps) => .ok (.error ps)
  | .ok (.ok a) => next a

/-- All outcomes at once. -/
def all : List (Check α) → Check (List α)
  | [] => right []
  | c :: rest => also (also (right List.cons) c) (all rest)

end Check

open Check (right wrong)

/-! ## Single values -/

/-- The text that bytes encode. -/
def textOfBytes? (bs : List UInt8) : Option String :=
  String.fromUTF8? ⟨bs.toArray⟩

/-- A text, or bytes that encode one. -/
def checkText (d : Datum) : Check String :=
  match d with
  | .scalar (.text s) => right s
  | .scalar (.bytes bs) => match textOfBytes? bs with
    | some s => right s
    | none => wrong .notUnicode d
  | _ => wrong .notText d

/-- A text or nothing. -/
def checkOptionalText (d : Datum) : Check (Option String) :=
  match d with
  | .scalar .null => right none
  | _ => (checkText d).andThen (right ∘ some)

/-- A value that has one of some names. -/
def checkNamed {α : Type} (all : List α) (name : α → String) (d : Datum) : Check α :=
  match d with
  | .scalar (.text s) => match all.find? (name · = s) with
    | some a => right a
    | none => wrong (.notOneOf (all.map name)) d
  | _ => wrong (.notOneOf (all.map name)) d

/-- The whole number that a text writes. -/
def checkWholeText (s : String) (d : Datum) : Check Int :=
  match wholeOfText s with
  | .ok n => right n
  | .error .unreadable => wrong .wholeUnreadable d
  | .error .tooLong => wrong .wholeTooLong d

/-- The whole number that a real number is. It must lie within the signed 64-bit range. -/
def checkWholeReal (x : Binary64) (d : Datum) : Check Int :=
  if !x.isFinite then wrong .notFinite d
  else match x.toInt? with
    | none => wrong .hasFraction d
    | some n => if minLong < n ∧ n ≤ maxLong then right n else wrong .wholeTooLong d

/-- A whole number: a number, a truth value, or a text that writes one. -/
def checkWhole (d : Datum) : Check Int :=
  match d with
  | .scalar (.int n) => right n
  | .scalar (.bool b) => right (if b then 1 else 0)
  | .scalar (.real x) => checkWholeReal x d
  | .scalar (.text s) => checkWholeText s d
  | .scalar (.bytes bs) => match textOfBytes? bs with
    | some s => checkWholeText s d
    | none => wrong .wholeUnreadable d
  | _ => wrong .notWhole d

/-- The real number that a text writes. -/
def checkRealText (s : String) (d : Datum) : Check Binary64 :=
  match realOfText? s with
  | some x => right x
  | none => wrong .realUnreadable d

/-- A real number: a number, a truth value, or a text that writes one. -/
def checkReal (d : Datum) : Check Binary64 :=
  match d with
  | .scalar (.real x) => right x
  | .scalar (.bool b) => right (.ofInt (if b then 1 else 0))
  | .scalar (.int n) =>
    let x := Binary64.ofInt n
    if x.isFinite then right x else wrong .notReal d
  | .scalar (.text s) => checkRealText s d
  | .scalar (.bytes bs) => match textOfBytes? bs with
    | some s => checkRealText s d
    | none => wrong .realUnreadable d
  | _ => wrong .notReal d

/-- A value that keeps a rule. -/
def checkRule {α : Type} (check : Datum → Check α) (holds : α → Bool) (broken : α → Cause)
    (d : Datum) : Check α :=
  (check d).andThen fun a => if holds a then right a else wrong (broken a) d

/-! ## Sections -/

/-- The setting with a name in a section, or its default. -/
def setting {α : Type} (entries : Entries) (name : String) (default : α) (check : Datum → Check α) :
    Check α :=
  match entries.find? name with
  | none => right default
  | some d => (check d).below (.setting name)

/-- A section is a table. -/
def checkSection {α : Type} (of : Section) (check : Entries → Check α) (d : Datum) : Check α :=
  match d.bare with
  | .table entries => check entries
  | _ => wrong (.notSection of) d

/-- A standard stream, or a file whose path is absolute once a tilde in front is replaced. -/
def checkDestination (homes : Path.Homes) (d : Datum) : Check String :=
  (checkText d).andThen fun s =>
    if s = "stderr" ∨ s = "stdout" then right s
    else match (Path.ofText s).expandHome homes with
      | .error fault => .error fault
      | .ok path =>
        if path.isAbsolute then right path.text else wrong (.relativeFile s) d

/-- All log levels from the least serious one on. -/
def checkLevel (d : Datum) : Check Log.Level :=
  checkNamed Log.Level.all Log.Level.settingName d

/-- A log level or nothing. -/
def checkOptionalLevel (d : Datum) : Check (Option Log.Level) :=
  match d with
  | .scalar .null => right none
  | _ => (checkLevel d).andThen (right ∘ some)

/-- One place that log events are written to. -/
def checkOutput (homes : Path.Homes) : Datum → Check LogOutput :=
  checkSection .output fun entries =>
    let initial : LogOutput := {}
    (((right LogOutput.mk).also
      (setting entries "format" initial.format (checkNamed [.json, .console] LogFormat.name))).also
      (setting entries "destination" initial.destination (checkDestination homes))).also
      (setting entries "level" initial.level checkOptionalLevel)

/-- The items of a list, the two parts of a pair, or the members of a set. -/
def itemsOf? (d : Datum) : Option (List Datum) :=
  match d.bare with
  | .list items => some items
  | .pair a b => some [a, b]
  | .set members => some (members.map .scalar)
  | _ => none

/-- A list whose items all pass a check. -/
def checkList {α : Type} (check : Datum → Check α) (d : Datum) : Check (List α) :=
  match itemsOf? d with
  | some items => Check.all (items.mapIdx fun i item => (check item).below (.item i))
  | none => wrong .notList d

/-- How the catalogue logs. -/
def checkLogging (homes : Path.Homes) : Datum → Check LogSettings :=
  checkSection .logging fun entries =>
    let initial : LogSettings := {}
    ((right LogSettings.mk).also
      (setting entries "level" initial.level checkLevel)).also
      (setting entries "outputs" initial.outputs (checkList (checkOutput homes)))

/-- The memory of each writing thread in megabytes, if there is a bound on the threads. -/
def threadMegabytes (s : IndexSettings) : Except Fault (Option Binary64) :=
  if s.writerThreads = 0 then .ok none
  else
    let share := Binary64.ofRatio false s.writerHeapMegabytes.natAbs s.writerThreads.natAbs
    if share.isFinite then .ok (some share) else .error .quotientTooLarge

/-- Each writing thread has enough memory. -/
def checkThreadMemory (d : Datum) (s : IndexSettings) : Check IndexSettings :=
  match threadMegabytes s with
  | .error fault => .error fault
  | .ok none => right s
  | .ok (some share) =>
    if share.lt (.ofInt minThreadMegabytes) then
      wrong (.smallHeapPerThread s.writerHeapMegabytes s.writerThreads) d
    else right s

/-- How the index is kept. -/
def checkIndex (d : Datum) : Check IndexSettings :=
  let settings := checkSection .index (fun entries =>
    let initial : IndexSettings := {}
    ((((right IndexSettings.mk).also
      (setting entries "index_path" initial.indexPath checkOptionalText)).also
      (setting entries "writer_heap_size_mb" initial.writerHeapMegabytes
        (checkRule checkWhole (minThreadMegabytes ≤ ·) .smallHeap))).also
      (setting entries "writer_num_threads" initial.writerThreads
        (checkRule checkWhole (0 ≤ ·) .negativeThreads))).also
      (setting entries "refresh_min_interval_sec" initial.refreshInterval checkReal)) d
  settings.andThen (checkThreadMemory d)

/-- A limit lies between one and the most results that any search gives. -/
def checkLimit : Datum → Check Int :=
  checkRule checkWhole (fun n => 1 ≤ n && n ≤ maxResults) .badLimit

/-- The most results that a search gives when its caller does not say. -/
def checkLimits : Datum → Check LimitSettings :=
  checkSection .limits fun entries =>
    let initial : LimitSettings := {}
    ((((right LimitSettings.mk).also
      (setting entries "name_search_default" initial.byName checkLimit)).also
      (setting entries "kind_search_default" initial.byKind checkLimit)).also
      (setting entries "parent_search_default" initial.byParent checkLimit)).also
      (setting entries "advanced_search_default" initial.advanced checkLimit)

/-- The three sections. -/
def checkSections (homes : Path.Homes) (entries : Entries) : Check Settings :=
  let initial : CodeCatalog.Settings := {}
  (((right Settings.mk).also
    (setting entries "logging" initial.logging (checkLogging homes))).also
    (setting entries "index" initial.index checkIndex)).also
    (setting entries "limits" initial.limits checkLimits)

/-- All settings. Anything beside the three sections is passed over. -/
def checkAll (homes : Path.Homes) : Datum → Check Settings :=
  checkSection .all (checkSections homes)

/-- The names of the three sections. -/
def sectionNames : List String := ["logging", "index", "limits"]

/-- Entries beside the three sections, which are problems of their own. -/
def checkNothingElse (entries : Entries) : Check Unit :=
  let problems := entries.filterMap fun (key, d) => match key with
    | .text name =>
      if sectionNames.contains name then none
      else some { way := [.setting name], cause := .notExpected, found := d : Problem }
    | _ => none
  .ok (if problems.isEmpty then .ok () else .error problems)

/-- All settings and nothing else. -/
def checkExactly (homes : Path.Homes) (entries : Entries) : Check Settings :=
  ((right fun s _ => s).also (checkSections homes entries)).also (checkNothingElse entries)

/-! ## Settings as data -/

/-- A table from named data. -/
def table (entries : List (String × Datum)) : Datum :=
  .table (entries.map fun (name, d) => (.text name, d))

/-- A text or nothing as a datum. -/
def optionalText (s : Option String) : Datum :=
  match s with
  | some s => .text s
  | none => .null

end Settings

open Settings

/-- A place that log events are written to, as a datum. -/
def LogOutput.toDatum (o : LogOutput) : Datum :=
  table [("format", .text o.format.name), ("destination", .text o.destination),
    ("level", optionalText (o.level.map Log.Level.settingName))]

/-- The log settings as a datum. -/
def LogSettings.toDatum (s : LogSettings) : Datum :=
  table [("level", .text s.level.settingName), ("outputs", .list (s.outputs.map LogOutput.toDatum))]

/-- The index settings as a datum. -/
def IndexSettings.toDatum (s : IndexSettings) : Datum :=
  table [("index_path", optionalText s.indexPath),
    ("writer_heap_size_mb", .scalar (.int s.writerHeapMegabytes)),
    ("writer_num_threads", .scalar (.int s.writerThreads)),
    ("refresh_min_interval_sec", .scalar (.real s.refreshInterval))]

/-- The limits as a datum. -/
def LimitSettings.toDatum (s : LimitSettings) : Datum :=
  table [("name_search_default", .scalar (.int s.byName)),
    ("kind_search_default", .scalar (.int s.byKind)),
    ("parent_search_default", .scalar (.int s.byParent)),
    ("advanced_search_default", .scalar (.int s.advanced))]

/-- All settings as a datum. -/
def Settings.toDatum (s : Settings) : Datum :=
  table [("logging", s.logging.toDatum), ("index", s.index.toDatum), ("limits", s.limits.toDatum)]

namespace Settings

/-- The settings of a section, checked and written out as data again. -/
def checkDatum (homes : Path.Homes) (of : Section) (d : Datum) : Check Datum :=
  match of with
  | .output => (checkOutput homes d).andThen (Check.right ∘ LogOutput.toDatum)
  | .logging => (checkLogging homes d).andThen (Check.right ∘ LogSettings.toDatum)
  | .index => (checkIndex d).andThen (Check.right ∘ IndexSettings.toDatum)
  | .limits => (checkLimits d).andThen (Check.right ∘ LimitSettings.toDatum)
  | .all => (checkAll homes d).andThen (Check.right ∘ Settings.toDatum)

/-- The log settings of a single output to the error stream. -/
def plainLogging (format : LogFormat) (level : Datum) : Datum :=
  table [("level", level), ("outputs", .list [table [("format", .text format.name)]])]

end Settings

end CodeCatalog
