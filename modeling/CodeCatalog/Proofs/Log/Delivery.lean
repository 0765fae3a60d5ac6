/-
What the outputs of the settings receive.

An event has to pass three times: the level of the settings, which the caller's side looks at
first; what a call can take as a context; and, at every output, the level of the output. So an
output receives what is serious enough for the settings and for itself (`isGiven`), as long as the
call was one (`Call.isLogged`) and the format has a line for it (`hasLine`). A level below that of
the settings gains an output nothing.

Setting up takes down all that was there, so the logger depends on nothing before it
(`replace_eq_setUp`). From then on calls are written one by one, each to the outputs in their order.
`deliveriesOf` tells for every line of a call which output it was written for; gathered by output,
the lines of a row of calls are those of the calls that the output receives (`calls_deliveries`).
-/
import CodeCatalog.Proofs.Log.Contents
import CodeCatalog.Proofs.Log.Line

set_option autoImplicit false

namespace CodeCatalog.Log

open Json

variable {α β γ : Type} {folder : Place} {l : Logger} {tree : Tree α} {s : LogSettings}
  {o : LogOutput} {c : Call} {calls : List Call} {i : Nat}

/-! ## Setting up again

Settings that are set up again take the place of the older ones, unless a file of theirs cannot be
created. -/

/-- Sinks that are put up one by one have their files created in order. -/
theorem addSinks_snd (sinks : List Sink) (l : Logger) (tree : Tree α) :
    (Logger.addSinks folder sinks l tree).2 = createFiles folder sinks tree := by
  induction sinks generalizing l tree with
  | nil => rfl
  | cons sink rest ih =>
    rw [Logger.addSinks, createFiles]
    -- only a sink on a file changes the tree
    rcases sink.destination with _ | _ | path
    · exact ih _ _
    · exact ih _ _
    · dsimp only
      rcases createFile tree folder path with f | made
      · rfl
      · exact ih _ _

/-- Sinks whose files can be created are added, all of them and in order. -/
theorem addSinks_fst {sinks : List Sink} (h : (createFiles folder sinks tree).2 = none) :
    (Logger.addSinks folder sinks l tree).1 = { l with sinks := l.sinks ++ sinks } := by
  -- along the sinks; a sink on a stream needs no file, and for one on a file the making succeeds by
  -- hypothesis
  induction sinks generalizing l tree with
  | nil =>
    rw [List.append_nil]
    rfl
  | cons sink rest ih =>
    have happend : l.sinks ++ sink :: rest = l.sinks ++ [sink] ++ rest := by simp
    rw [createFiles] at h
    rw [Logger.addSinks, happend]
    rcases hd : sink.destination with _ | _ | path <;> rw [hd] at h
    · exact ih h
    · exact ih h
    · dsimp only at h ⊢
      rcases hcreate : createFile tree folder path with f | made <;> rw [hcreate] at h
      · cases h
      · exact ih h

theorem replace_snd (l : Logger) (s : LogSettings) (tree : Tree α) :
    (l.replace folder s tree).2 = createFiles folder (Logger.ofSettings s l.request).sinks tree :=
  addSinks_snd _ _ tree

/-- Settings whose files can be created replace all that was there before. -/
theorem replace_fst (h : (l.replace folder s tree).2.2 = none) :
    (l.replace folder s tree).1 = Logger.ofSettings s l.request := by
  rw [replace_snd] at h
  exact addSinks_fst h

/-- **Setting up again is setting up anew.** Of the logger that was there nothing is left but the
request. -/
theorem replace_eq_setUp (l : Logger) (s : LogSettings) (tree : Tree α) :
    Logger.setUp folder l.request s tree =
      match l.replace folder s tree with
      | (logger, tree, none) => (.ok logger, tree)
      | (_, tree, some f) => (.error f, tree) := by
  have hsnd : (l.replace folder s tree).2 = _ := replace_snd l s tree
  have hfst : (l.replace folder s tree).2.2 = none → (l.replace folder s tree).1 = _ := replace_fst
  rw [Logger.setUp]
  rcases hreplace : l.replace folder s tree with ⟨logger, made, _ | f⟩ <;>
    rw [hreplace] at hsnd hfst
  · rw [← hsnd, ← hfst rfl]
  · rw [← hsnd]

/-! ## Calls

A call is logged to all sinks or is a failure: a name that every record has clashes with one that
the caller gave. -/

/-- The record of a call. -/
def Call.record (c : Call) : Fields :=
  Log.record c.time c.request c.event

/-- The names under which a call takes what it is made with. -/
def callNames : List String := ["self", "event", "method_name"]

/-- Whether a call logs its event: it is refused if the context uses one of its names. -/
def Call.isLogged (c : Call) : Bool :=
  c.source = .other || callNames.all fun name => (c.event.context.get? name).isNone

/-- An event that is taken up is refused just for a name of the call. -/
theorem isNone_clash? {e : Event} (h : l.takes e = true) :
    (l.clash? e).isNone = callNames.all fun name => (e.context.get? name).isNone := by
  have hfind := Fields.isNone_find? e.context "self" "event"
  have hall : callNames.all (fun name => (e.context.get? name).isNone) =
      (((e.context.get? "self").isNone && (e.context.get? "event").isNone) &&
        (e.context.get? "method_name").isNone) := by
    simp [callNames, Bool.and_assoc]
  rw [hall, ← hfind, Logger.clash?, h]
  dsimp only
  -- the name of the method counts only where the event has neither of the other two
  split
  · next found hfound =>
    rw [hfound]
    rfl
  · next hfound =>
    rw [hfound]
    cases e.context.get? "method_name" <;> rfl

/-- The lines of a call for the sinks that take it. -/
def sinkLines (l : Logger) (c : Call) : List Written :=
  (l.sinks.filter (·.level.admits c.event)).filterMap fun s =>
    (formatted s.format c.record).toOption.map (s.destination, ·)

/-- A call at a logger with sinks is refused, or written to them. -/
theorem writeCall_eq (hsinks : l.sinks ≠ []) (c : Call) : l.writeCall c =
    match if c.source = .catalog then l.clash? c.event else none with
    | some f => .error f
    | none => .ok (if l.level.admits c.event then sinkLines l c else []) := by
  have hempty : l.sinks.isEmpty = false := by simpa using hsinks
  rw [Logger.writeCall, Logger.write]
  -- only what the catalogue logs itself can clash with its own fields
  cases c.source with
  | other =>
    simp only [hempty]
    rfl
  | catalog =>
    have hclash : ({ l with request := c.request } : Logger).clash? c.event = l.clash? c.event :=
      rfl
    rw [hclash]
    simp only [hempty]
    rcases l.clash? c.event with _ | f
    · rfl
    · rfl

/-- **The lines of a call** at a logger with sinks: those of the sinks that take the event, if the
call logs it and the logger takes it up, and else none. -/
theorem lines_writeCall (hset : l.isSetUp = true) (hsinks : l.sinks ≠ []) (c : Call) :
    (l.writeCall c).toOption.getD [] =
      if l.level.admits c.event && c.isLogged then sinkLines l c else [] := by
  rw [writeCall_eq hsinks]
  cases hadmits : l.level.admits c.event with
  | false =>
    -- the call may be refused, and has no lines either way
    split <;> rfl
  | true =>
    have htakes : l.takes c.event = true := by simp [Logger.takes, hset, hadmits]
    have hrefused : (if c.source = .catalog then l.clash? c.event else none).isNone =
        c.isLogged := by
      rw [Call.isLogged]
      cases c.source with
      | other => rfl
      | catalog => exact isNone_clash? htakes
    rw [← hrefused]
    rcases (if c.source = .catalog then l.clash? c.event else none) with _ | f
    · rfl
    · rfl

/-! ## Deliveries

What each output receives of each call, with its line. The lines that are written are those of the
deliveries, in order. -/

/-- A line that an output receives for a call. -/
structure Delivery where
  output : Nat
  call : Call
  line : Written
  deriving Repr, DecidableEq

/-- Whether an output is given an event: it is serious enough for the settings, and for the output
itself. -/
def isGiven (s : LogSettings) (o : LogOutput) (e : Event) : Bool :=
  s.level.admits e && (o.level.getD s.level).admits e

/-- Whether an output receives a call: it is given the event, which the call logs, and its format
has a line for it. -/
def receives (s : LogSettings) (o : LogOutput) (c : Call) : Bool :=
  isGiven s o c.event && c.isLogged && hasLine o.format c.event.context

/-- The line of an output for a call. -/
def delivery? (s : LogSettings) (c : Call) (o : LogOutput) (i : Nat) : Option Delivery :=
  if isGiven s o c.event && c.isLogged then
    (formatted o.format c.record).toOption.map fun line =>
      { output := i, call := c, line := (.ofText o.destination, line) }
  else none

/-- The lines for a call, each with the output that receives it. -/
def deliveriesOf (s : LogSettings) (c : Call) : List Delivery :=
  s.outputs.zipIdx.filterMap fun (o, i) => delivery? s c o i

/-- An output has a delivery of a call just if it receives it. -/
theorem isSome_delivery? : (delivery? s c o i).isSome = receives s o c := by
  -- a record has a line in the format just if the fields of its event allow one
  have hline : (formatted o.format c.record).toOption.isSome =
      hasLine o.format c.event.context := by
    rw [isSome_formatted, Call.record, hasLine_record]
  rw [delivery?, receives, ← hline]
  split
  · next h =>
    rw [Option.isSome_map, h]
    rfl
  · next h =>
    rw [Bool.not_eq_true] at h
    rw [h]
    rfl

/-- A delivery is of its output and its call, and has the line of the call's record. -/
theorem of_delivery? {d : Delivery} (h : delivery? s c o i = some d) :
    d.output = i ∧ d.call = c ∧ d.line.1 = .ofText o.destination ∧
      formatted o.format c.record = .ok d.line.2 := by
  rw [delivery?] at h
  split at h
  · rcases hline : formatted o.format c.record with f | line <;> rw [hline] at h
    · cases h
    · obtain rfl := Option.some.inj h
      exact ⟨rfl, rfl, rfl, rfl⟩
  · cases h

/-- The lines for the sinks of some settings, output by output. -/
theorem sinkLines_ofSettings (s : LogSettings) (request : Option String) (c : Call) :
    sinkLines (Logger.ofSettings s request) c = s.outputs.filterMap fun o =>
      if (o.level.getD s.level).admits c.event then
        (formatted o.format c.record).toOption.map (Destination.ofText o.destination, ·)
      else none := by
  rw [sinkLines, Logger.ofSettings, List.filterMap_filter, List.filterMap_map]
  rfl

/-- **The deliveries of a call are its lines.** -/
theorem lines_deliveriesOf (hne : s.outputs ≠ []) (request : Option String) (c : Call) :
    (deliveriesOf s c).map (·.line) =
      ((Logger.ofSettings s request).writeCall c).toOption.getD [] := by
  -- the number of an output is not part of its lines
  have hline : ∀ o i, (delivery? s c o i).map (·.line) =
      if s.level.admits c.event && c.isLogged then
        if (o.level.getD s.level).admits c.event then
          (formatted o.format c.record).toOption.map (Destination.ofText o.destination, ·)
        else none
      else none := by
    intro o i
    rw [delivery?, isGiven]
    cases s.level.admits c.event <;> cases c.isLogged <;>
      cases (o.level.getD s.level).admits c.event <;> simp [Function.comp_def]
  have hsinks : (Logger.ofSettings s request).sinks ≠ [] := by
    simpa [Logger.ofSettings] using hne
  have hlevel : (Logger.ofSettings s request).level = s.level := rfl
  rw [lines_writeCall rfl hsinks, hlevel, sinkLines_ofSettings, deliveriesOf, List.map_filterMap]
  simp only [hline]
  cases s.level.admits c.event && c.isLogged with
  | true =>
    have houtputs : s.outputs.zipIdx.map Prod.fst = s.outputs := List.zipIdx_map_fst 0 s.outputs
    conv_rhs => rw [← houtputs, List.filterMap_map]
    rfl
  | false => simp

/-! ## Deliveries by output

The deliveries of one output are in the order of the calls, and each call comes at most once. -/

/-- Of numbered entries just one has the number of a place in the list. -/
theorem filter_zipIdx (xs : List β) (n i : Nat) :
    ((xs.zipIdx n).filter fun x => x.2 = n + i) = (xs[i]?).toList.map (·, n + i) := by
  -- by the list, with the first number left open: behind the head the numbers go on one higher
  induction xs generalizing n i with
  | nil => rfl
  | cons x xs ih =>
    rw [List.zipIdx_cons]
    cases i with
    | zero =>
      have hnone : ((xs.zipIdx (n + 1)).filter fun x => x.2 = n + 0) = [] := by
        rw [List.filter_eq_nil_iff]
        intro y hy
        have hle := List.le_snd_of_mem_zipIdx hy
        simp
        omega
      rw [List.filter_cons_of_pos (by simp), hnone]
      rfl
    | succ i =>
      have hrest := ih (n + 1) i
      rw [show n + 1 + i = n + (i + 1) by omega] at hrest
      rw [List.filter_cons_of_neg (by simp), hrest]
      rfl

/-- Of a call an output receives its line, once, or nothing. -/
theorem filter_deliveriesOf (h : s.outputs[i]? = some o) (c : Call) :
    (deliveriesOf s c).filter (·.output = i) = (delivery? s c o i).toList := by
  -- a delivery has the number of its output, so the outputs can be chosen in place of the lines
  have hnumber : ∀ x : LogOutput × Nat, ((delivery? s c x.1 x.2).filter fun d => d.output = i) =
      if x.2 = i then delivery? s c x.1 x.2 else none := by
    intro x
    rcases hd : delivery? s c x.1 x.2 with _ | d
    · simp
    · rw [Option.filter_some, (of_delivery? hd).1]
      simp
  have hone : (s.outputs.zipIdx.filter fun x => x.2 = i) = [(o, i)] := by
    have hone := filter_zipIdx s.outputs 0 i
    rw [Nat.zero_add, h] at hone
    exact hone
  calc (deliveriesOf s c).filter (·.output = i)
      = s.outputs.zipIdx.filterMap fun x =>
          (delivery? s c x.1 x.2).filter fun d => d.output = i := List.filter_filterMap ..
    _ = (s.outputs.zipIdx.filter fun x => x.2 = i).filterMap fun x => delivery? s c x.1 x.2 := by
        simp only [hnumber, List.filterMap_filter]
        simp
    _ = (delivery? s c o i).toList := by
        rw [hone]
        cases hd : delivery? s c o i <;> simp [hd]

/-- **What an output receives of a row of calls** is just the calls that it takes, in order. -/
theorem calls_deliveries (h : s.outputs[i]? = some o) (calls : List Call) :
    ((calls.flatMap (deliveriesOf s)).filter (·.output = i)).map (·.call) =
      calls.filter (receives s o) := by
  induction calls with
  | nil => rfl
  | cons c calls ih =>
    rw [List.flatMap_cons, List.filter_append, List.map_append, ih, filter_deliveriesOf h]
    -- whether the call is delivered to the output is what the settings say it receives
    rcases hd : delivery? s c o i with _ | d
    · have hnot : receives s o c = false := by
        rw [← isSome_delivery? (i := i), hd]
        rfl
      rw [List.filter_cons_of_neg (by simp [hnot])]
      rfl
    · have htakes : receives s o c = true := by
        rw [← isSome_delivery? (i := i), hd]
        rfl
      rw [List.filter_cons_of_pos htakes]
      simp [(of_delivery? hd).2.1]

/-- Every delivery is a line that the format of an output has for a call, written where the output
says. -/
theorem of_mem_deliveriesOf {d : Delivery} (h : d ∈ deliveriesOf s c) : d.call = c ∧
    ∃ o, s.outputs[d.output]? = some o ∧ d.line.1 = .ofText o.destination ∧
      formatted o.format d.call.record = .ok d.line.2 := by
  obtain ⟨⟨o, i⟩, hmem, hd⟩ := List.mem_filterMap.mp h
  obtain ⟨rfl, rfl, hdestination, hline⟩ := of_delivery? hd
  exact ⟨rfl, o, List.mem_zipIdx_iff_getElem?.mp hmem, hdestination, hline⟩

end CodeCatalog.Log
