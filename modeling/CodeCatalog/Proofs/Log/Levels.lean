/-
Every output has a level of its own, above that of the settings.

Whatever has been set up and logged before, and however that went, once logging is set up by some
settings the calls that follow are delivered by those settings alone (`delivered_by_level`): every
output receives, in their order and once each, the calls whose events reach both the level of the
settings and its own, of those that log an event its format has a line for. What the other outputs
are makes no difference to what it receives.

An output with a level below that of the settings does not hear more for it, and a line for readers
is lost where it cannot be appended to (`not_delivered_below_settings`).
-/
import CodeCatalog.Proofs.Log.Delivery

set_option autoImplicit false

namespace CodeCatalog.Log

open Json

variable {α : Type} {folder : Place} {l : Logger} {s : LogSettings} {o : LogOutput} {c : Call}

/-! ## Sessions

A session sets up its logger any number of times and logs in between. What is written follows from
the last setting up. -/

theorem run_append (t : Session α) (deeds deeds' : List Deed) :
    t.run folder (deeds ++ deeds') = (t.run folder deeds).run folder deeds' :=
  List.foldl_append

theorem addAll_append (out : Output α) (lines lines' : List Written) :
    out.addAll folder (lines ++ lines') = (out.addAll folder lines).addAll folder lines' :=
  List.foldl_append

/-- The lines of calls; one that is refused has none. -/
def linesOf (l : Logger) (calls : List Call) : List Written :=
  calls.flatMap fun c => (l.writeCall c).toOption.getD []

theorem linesOf_cons (l : Logger) (c : Call) (calls : List Call) :
    linesOf l (c :: calls) = (l.writeCall c).toOption.getD [] ++ linesOf l calls :=
  List.flatMap_cons

/-- A call adds its lines and leaves the logger as it is. -/
theorem log_fst (t : Session α) (c : Call) : (t.log folder c).1 =
    ⟨t.logger, t.output.addAll folder ((t.logger.writeCall c).toOption.getD [])⟩ := by
  rw [Session.log]
  rcases t.logger.writeCall c with f | lines
  · rfl
  · rfl

/-- Calls change no logger; their lines go out in order. -/
theorem run_calls (t : Session α) (calls : List Call) : t.run folder (calls.map .log) =
    ⟨t.logger, t.output.addAll folder (linesOf t.logger calls)⟩ := by
  induction calls generalizing t with
  | nil => rfl
  | cons c calls ih =>
    have hstep : t.run folder (.log c :: calls.map .log) =
        (t.log folder c).1.run folder (calls.map .log) := rfl
    rw [List.map_cons, hstep, log_fst, ih, linesOf_cons, addAll_append]

/-- Once logging is set up, it is as if nothing else had been before, and the files of the outputs
are there. -/
theorem of_setUp {t : Session α} (h : (t.setUp folder s).2 = none) :
    (t.setUp folder s).1.logger = Logger.ofSettings s t.logger.request ∧
      ∀ path ∈ filesOf (Logger.ofSettings s t.logger.request).sinks,
        (t.setUp folder s).1.output.tree.HasFile folder path := by
  have hfault : (t.logger.replace folder s t.output.tree).2.2 = none := h
  have hcreate : createFiles folder (Logger.ofSettings s t.logger.request).sinks t.output.tree =
      ((t.setUp folder s).1.output.tree, none) := by
    rw [← replace_snd, ← hfault]
    rfl
  exact ⟨replace_fst hfault, (of_createFiles hcreate).1⟩

/-! ## Levels

An output has the lines of the events that reach its level and the level of the logger. Files and
streams receive them alike. -/

/-- **Delivered.** From one state of the streams and files to another, every output has received
those of the calls that it takes, in their order and once each, as lines of its format at its
destination; and nothing else was written, if there are outputs. -/
def Delivered (folder : Place) (s : LogSettings) (takes : LogOutput → Call → Bool)
    (calls : List Call) (before after : Output α) : Prop :=
  ∃ ds : List Delivery,
    (∀ i o, s.outputs[i]? = some o →
      (ds.filter (·.output = i)).map (·.call) = calls.filter (takes o)) ∧
    (∀ d ∈ ds, ∃ o, s.outputs[d.output]? = some o ∧ d.line.1 = .ofText o.destination ∧
      formatted o.format d.call.record = .ok d.line.2) ∧
    (s.outputs ≠ [] → before.Gains folder (ds.map (·.line)) after)

/-- The lines of deliveries go to the files of the outputs. -/
theorem mem_filesOf_of_mem {calls : List Call} {w : Written} {path : Path}
    (hw : w ∈ (calls.flatMap (deliveriesOf s)).map (·.line)) (hpath : w.1 = .file path)
    (request : Option String) : path ∈ filesOf (Logger.ofSettings s request).sinks := by
  obtain ⟨d, hd, rfl⟩ := List.mem_map.mp hw
  obtain ⟨c, -, hc⟩ := List.mem_flatMap.mp hd
  obtain ⟨-, o, ho, hdestination, -⟩ := of_mem_deliveriesOf hc
  refine List.mem_filterMap.mpr ⟨Sink.ofOutput s.level o, ?_, ?_⟩
  · exact List.mem_map_of_mem (List.mem_of_getElem? ho)
  · rw [Sink.ofOutput, ← hdestination, hpath]

/-- What calls write at a logger for some settings is delivered to their outputs, whose files are
there. -/
theorem delivered_linesOf {request : Option String} {out : Output α} (calls : List Call)
    (hfiles : ∀ path ∈ filesOf (Logger.ofSettings s request).sinks,
      out.tree.HasFile folder path) :
    Delivered folder s (receives s) calls out
      (out.addAll folder (linesOf (Logger.ofSettings s request) calls)) := by
  refine ⟨calls.flatMap (deliveriesOf s), fun i o ho => calls_deliveries ho calls, ?_, ?_⟩
  · intro d hd
    obtain ⟨c, -, hc⟩ := List.mem_flatMap.mp hd
    exact (of_mem_deliveriesOf hc).2
  -- the lines of all calls are the lines of their deliveries, if there is an output at all
  · intro hne
    have hlines : linesOf (Logger.ofSettings s request) calls =
        (calls.flatMap (deliveriesOf s)).map (·.line) := by
      rw [List.map_flatMap]
      exact List.flatMap_congr fun c _ => (lines_deliveriesOf hne request c).symm
    rw [hlines]
    apply gains_addAll
    intro w hw path hpath
    exact hfiles path (mem_filesOf_of_mem hw hpath request)

/-- The events that one command logs, each as a call of its own. -/
def callsOf (l : Logger) (time : String) (source : Source) (events : List Event) : List Call :=
  events.map fun event => { time, request := l.request, source, event }

/-- The lines of events are those of the calls that they are logged by. -/
theorem linesOf_callsOf (l : Logger) (time : String) (source : Source) (events : List Event) :
    linesOf l (callsOf l time source events) = l.writeAll time source events := by
  rw [linesOf, callsOf, List.flatMap_map]
  rfl

/-- What a command logs is delivered by level, once its logger has been set up. -/
theorem delivered_writeAll {request : Option String} {out : Output α} {tree : Tree α}
    (hset : Logger.setUp folder request s tree = (.ok l, out.tree)) (time : String)
    (source : Source) (events : List Event) :
    Delivered folder s (receives s) (callsOf l time source events) out
      (out.addAll folder (l.writeAll time source events)) := by
  rw [Logger.setUp] at hset
  -- the setting up succeeded, so all files of its sinks are there
  rcases hcreate : createFiles folder (Logger.ofSettings s request).sinks tree
    with ⟨made, _ | f⟩ <;> rw [hcreate] at hset
  · obtain ⟨hl, rfl⟩ := Prod.mk.inj hset
    obtain rfl := Except.ok.inj hl
    rw [← linesOf_callsOf]
    exact delivered_linesOf _ (of_createFiles hcreate).1
  · cases hset

/-- **Every output has its level**, whatever was before: once logging is set up by some settings,
each of their outputs receives just the calls whose events reach the level of the settings and its
own (`receives`). -/
theorem delivered_by_level (folder : Place) (start : Session α) (past : List Deed)
    (s : LogSettings) (calls : List Call)
    (hset : ((start.run folder past).setUp folder s).2 = none) :
    Delivered folder s (receives s) calls
      (start.run folder (past ++ [.setUp s])).output
      (start.run folder (past ++ .setUp s :: calls.map .log)).output := by
  obtain ⟨hlogger, hfiles⟩ := of_setUp hset
  -- of the past nothing is left but the request and what streams and files hold
  have hbefore : start.run folder (past ++ [.setUp s]) =
      ((start.run folder past).setUp folder s).1 := run_append start past _
  have hafter : start.run folder (past ++ .setUp s :: calls.map .log) =
      ((start.run folder past).setUp folder s).1.run folder (calls.map .log) :=
    run_append start past _
  rw [hbefore, hafter, run_calls, hlogger]
  exact delivered_linesOf calls hfiles

/-! ## At some settings

An output with a level of its own, an event that is below all levels, and one that only an output
would take. -/

/-- A program that has logged nothing. -/
def fresh : Session Unit := { output := { tree := {} } }

/-- An event without a context, and a call that logs it. -/
def plainCall (level : Level) (name : String) : Call :=
  { time := "2024-01-01 00:00:00", event := { level, name } }

/-- Outputs at, above and below the level of the settings. -/
def threeLevels : LogSettings where
  level := .info
  outputs := [{}, { destination := "stdout", level := some .error },
    { format := .json, destination := "/log/all", level := some .debug }]

/-- Nothing but the settings that are in force tells what the three outputs receive, and the third
one does not receive what is below the level of the settings. -/
theorem delivered_by_level_three :
    let past := [.setUp { level := .critical }, .log (plainCall .error "unheard")]
    let debug := plainCall .debug "searching"
    let info := plainCall .info "opened"
    let error := plainCall .error "failed"
    ((fresh.run [] past).setUp [] threeLevels).2 = none ∧
    Delivered [] threeLevels (receives threeLevels) [info, debug, error]
      (fresh.run [] (past ++ [.setUp threeLevels])).output
      (fresh.run [] (past ++ .setUp threeLevels :: [info, debug, error].map .log)).output ∧
    threeLevels.outputs.map (fun o => [info, debug, error].filter (receives threeLevels o)) =
      [[info, error], [error], [info, error]] := by
  -- that the setting up succeeds is computed; what comes before it has no part in the result
  have hset : ((fresh.run [] [.setUp { level := .critical },
      .log (plainCall .error "unheard")]).setUp [] threeLevels).2 = none := rfl
  exact ⟨hset, delivered_by_level [] fresh _ threeLevels _ hset, by decide +kernel⟩

/-- An output at the error stream that receives a call shows a line for it. -/
theorem not_delivered_of_silent {takes : LogOutput → Call → Bool} {before after : Output α}
    (houtputs : s.outputs = [o]) (hstderr : o.destination = "stderr") (htakes : takes o c = true)
    (hsilent : after.stderr = before.stderr) : ¬ Delivered folder s takes [c] before after := by
  rintro ⟨ds, hcalls, hlines, hgains⟩
  -- the call has a delivery, whose line the error stream would show
  have hcall : (ds.filter (·.output = 0)).map (·.call) = [c] := by
    rw [hcalls 0 o (by rw [houtputs]; rfl), List.filter_cons_of_pos htakes]
    rfl
  obtain ⟨d, hd⟩ : ∃ d, d ∈ ds.filter (·.output = 0) := by
    apply List.exists_mem_of_ne_nil
    rintro hnone
    rw [hnone] at hcall
    cases hcall
  obtain ⟨hmem, hfirst⟩ := List.mem_filter.mp hd
  obtain ⟨o', ho', hdestination, -⟩ := hlines d hmem
  have hstream : d.line.1 = .stderr := by
    rw [of_decide_eq_true hfirst, houtputs] at ho'
    rw [hdestination, ← Option.some.inj ho', hstderr]
    rfl
  have hshown := (hgains (by simp [houtputs])).stderr
  rw [hsilent, List.self_eq_append_right, chosen, List.map_eq_nil_iff,
    List.filter_eq_nil_iff] at hshown
  exact hshown d.line (List.mem_map_of_mem hmem) (by simp [hstream])

/-- **An output does not receive all that reaches its own level.** What is below the level of the
settings is taken up nowhere; and what has a number for the failure that it tells of has no line for
readers. -/
theorem not_delivered_below_settings :
    (let s : LogSettings :=
        { level := .error, outputs := [{ format := .json, level := some .debug }] }
      let c := plainCall .debug "ev_debug"
      (fresh.setUp [] s).2 = none ∧
      ¬ Delivered [] s (fun o c => (o.level.getD s.level).admits c.event) [c]
        (fresh.run [] [.setUp s]).output (fresh.run [] [.setUp s, .log c]).output) ∧
    (let s : LogSettings := {}
      let c : Call := { time := "", event :=
        { level := .info, name := "ev", context := [("exception", .int 5)] } }
      (fresh.setUp [] s).2 = none ∧
      ¬ Delivered [] s (fun o c => (o.level.getD s.level).admits c.event) [c]
        (fresh.run [] [.setUp s]).output (fresh.run [] [.setUp s, .log c]).output) := by
  constructor
  -- both runs are silent where the claim would have a line
  · exact ⟨rfl, not_delivered_of_silent rfl rfl rfl (by decide +kernel)⟩
  · exact ⟨rfl, not_delivered_of_silent rfl rfl rfl (by decide +kernel)⟩

end CodeCatalog.Log
