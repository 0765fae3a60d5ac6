/-
Whether a write happens as a whole or not at all.

A write that fails before its commit is as if it had never been asked for, once the engine accepts
the rollback: the process is left as it was but for its log, so whatever is done with it later comes
to the same. The engine has the last word in two places. A rollback that it refuses is only logged if
it is refused for a file or a value; otherwise the refusal gets out of the write. A reload that it
refuses gets out of a write that is committed already. Apart from these two, a write returns with its
change committed, or it is reported and nothing is committed.

A rollback that was refused leaves a beginning of the failed write waiting, and the next commit
carries it out along with another write. While no rollback is refused, the documents are those that
the committed writes make, one after another, and a write that returns is one of these.
-/
import CodeCatalog.Proofs.Search.Activity

set_option autoImplicit false

namespace CodeCatalog.Search

open Act Desk

variable {ι : Type} [DecidableEq ι] {p q : Process ι} {i : ι} {now : Binary64} {w : Write}
  {s : Session}

/-- A write in a turn is the write on the desk of its handle. -/
theorem perform_write {r : Except Failure Answer} {t : Desk}
    (h : w.action.outcome (q.desk i now) = (r, t)) :
    q.perform ⟨i, now, .write w⟩ = (r, q.leave i t) := by
  unfold Process.perform
  dsimp only
  rw [show Deed.action (.write w) = w.action from rfl, h]

namespace Desk

variable {d t : Desk}

/-- The handle is open on a commit, with readers at rest. -/
def Committed (c : Collection) (d : Desk) : Prop :=
  ∃ s, d.index.session = some s ∧ s.engine.readers.AtRest ∧ s.engine.source.committed = c

/-- What a write leaves is committed to what it leaves of the content. -/
theorem committed_of_left {shelf : Shelf} {readers : Readers} {k : Content}
    (hleft : Left d s shelf readers k t) (hrest : readers.AtRest) : Committed k.committed t := by
  obtain ⟨-, w', hindex, hleft⟩ := hleft
  refine ⟨⟨w', s.place⟩, ?_, ?_, congrArg Content.committed hleft.content⟩
  · rw [hindex]
  · rw [hleft.readers]
    exact hrest

end Desk

/-- What a session is committed to after a write: if all its steps succeed, its changes behind those
that waited, and else what it was committed to. -/
def Write.leaves (w : Write) (d : Desk) (s : Session) : Collection :=
  match (w.steps.outcome d).1 with
  | .error _ => s.engine.source.committed
  | .ok () => s.engine.source.committed.changeAll (s.engine.source.pending ++ w.changes)

/-- **A write is committed as a whole, or nothing is.** -/
theorem Desk.committed_of_ending {d t : Desk} {r : Except Failure Answer}
    (h : Ending w d s (r, t)) (hrest : s.engine.readers.AtRest) : Committed (w.leaves d s) t := by
  unfold Write.leaves
  -- what was undone or refused leaves the commit as it was; what was done or not seen leaves the
  -- new one
  cases h with
  | undone hsteps _ hleft =>
    rw [hsteps]
    exact committed_of_left hleft hrest
  | stuck hsteps _ _ _ hleft =>
    rw [hsteps]
    exact committed_of_left hleft hrest
  | escaped hsteps _ _ _ hleft =>
    rw [hsteps]
    exact committed_of_left hleft hrest
  | done hsteps _ hc hleft =>
    obtain rfl := hc
    rw [hsteps]
    exact committed_of_left hleft ⟨hrest.serving, hrest.unlocked⟩
  | unseen hsteps _ hc hleft =>
    obtain rfl := hc
    rw [hsteps]
    exact committed_of_left hleft hrest

/-- A process with one handle, on a folder that is not there yet. -/
def Process.single : Process Unit :=
  start {} fun _ => Index.new ⟨1, []⟩ ⟨1, ["index"]⟩ 50 1 .zero

/-- The fault of a disk without room. -/
def diskFull : Fault := .raised .file "no space left on device"

/-! ## Writes that are undone

An engine is told beforehand which of its calls will fail. A write that meets such a failure before
its commit, and is taken back, leaves the handle as it was but for the script that is used up; so
everything after it goes as if it had not been tried. -/

/-- The handle whose engine has been told where to fail. -/
def Index.told (i : Index) (script : Script) : Index :=
  { i with session := i.session.map fun s =>
      { s with engine := { s.engine with source := { s.engine.source with script := script } } } }

namespace Process

/-- Telling an engine how to fail is a deed of its own, and changes nothing else. -/
theorem perform_tell (q : Process ι) (i : ι) (now : Binary64) (script : Script) :
    q.perform ⟨i, now, .tell script⟩ =
      (.ok .done, { q with handle := Function.update q.handle i ((q.handle i).told script) }) :=
  rfl

omit [DecidableEq ι] in
/-- Where a session is as it was but for the script, a new script makes it the same. -/
theorem told_of_left {t : Desk} (hs : (q.handle i).session = some s)
    (hleft : Left (q.desk i now) s q.shelf s.engine.readers s.engine.source.content t)
    (script : Script) : t.index.told script = (q.handle i).told script := by
  obtain ⟨-, w', hw', hreaders, hcontent, hconsumed⟩ := hleft
  obtain ⟨⟨committed, visible, pending, consumed, script'⟩, readers⟩ := w'
  obtain ⟨⟨⟨committed₀, visible₀, pending₀, consumed₀, script₀⟩, readers₀⟩, place⟩ := s
  -- what was undone is back as it was, and all that is left to differ is the script
  obtain ⟨rfl, rfl, rfl⟩ : committed = committed₀ ∧ visible = visible₀ ∧ pending = pending₀ := by
    simpa [Engine.content] using hcontent
  obtain rfl : consumed = consumed₀ := hconsumed
  obtain rfl : readers = readers₀ := hreaders
  have hindex : t.index = { q.handle i with session := some ⟨⟨⟨committed, visible, pending, consumed,
    script'⟩, readers⟩, place⟩ } := hw'
  rw [hindex, Index.told, Index.told, hs]
  rfl

/-- Processes that differ in the script of one handle and in the log come to the same from the turn on
in which the engine of that handle is told a new script. -/
theorem answers_tell {r : Process ι} (hshelf : r.shelf = q.shelf)
    (hothers : ∀ j, j ≠ i → r.handle j = q.handle j) {script : Script}
    (htold : (r.handle i).told script = (q.handle i).told script) (now : Binary64)
    (later : List (Turn ι)) :
    r.answers (⟨i, now, .tell script⟩ :: later) = q.answers (⟨i, now, .tell script⟩ :: later) ∧
      ∃ u : Process ι, q.performAll (⟨i, now, .tell script⟩ :: later) = u.after q.log ∧
        r.performAll (⟨i, now, .tell script⟩ :: later) = u.after r.log := by
  have hhandles : Function.update r.handle i ((r.handle i).told script) =
      Function.update q.handle i ((q.handle i).told script) := by
    funext j
    by_cases hj : j = i
    · subst hj
      rw [Function.update_self, Function.update_self, htold]
    · rw [Function.update_of_ne hj, Function.update_of_ne hj, hothers j hj]
  -- what both are after the turn, but for the log
  let u : Process ι :=
    { shelf := q.shelf, handle := Function.update q.handle i ((q.handle i).told script) }
  have hq : (q.perform ⟨i, now, .tell script⟩).2 = u.after q.log := by
    rw [perform_tell, after, List.append_nil]
  have hr : (r.perform ⟨i, now, .tell script⟩).2 = u.after r.log := by
    rw [perform_tell, after, List.append_nil, hhandles, hshelf]
  obtain ⟨hqall, hqanswers⟩ := u.performAll_after q.log later
  obtain ⟨hrall, hranswers⟩ := u.performAll_after r.log later
  refine ⟨?_, u.performAll later, ?_, ?_⟩
  · rw [answers, answers, hr, hq, hranswers, hqanswers]
    rfl
  · rw [performAll_cons, hq, hqall]
  · rw [performAll_cons, hr, hrall]

end Process

/-- **A failing write that is rolled back never happened.** Let a handle be open since it was closed
last, and let no rollback have been refused in it. Then a write any of whose steps fails, up to the
commit, is reported where its rollback is accepted. The handle is still open on the same documents,
committed and visible, the files are untouched, and whatever is done from then on, and wherever the
engine is told to fail then, comes to the same as without the write. -/
theorem failing_write_undone (p : Process ι) (before : List (Turn ι)) (i : ι) (now : Binary64)
    (w : Write) (s : Session) (e : Failure) (hclosed : (p.handle i).session = none)
    (hrolled : ¬ p.RollbackRefused i before)
    (hs : ((p.performAll before).handle i).session = some s) (hw : w.isPresent = true)
    (hfails : (w.steps.outcome ((p.performAll before).desk i now)).1 = .error e)
    (haccepted : s.engine.source.refusal? .rollback = none) :
    let q := p.performAll before
    let r := q.perform ⟨i, now, .write w⟩
    r.1 = .error (.catalog (.writeFailed w.operation e.text)) ∧
    (CatalogError.writeFailed w.operation e.text).code = .indexWriteFailed ∧
    r.2.shelf = q.shelf ∧
    (∃ s', (r.2.handle i).session = some s' ∧
      s'.engine.source.committed = s.engine.source.committed ∧
      s'.engine.source.visible = s.engine.source.visible) ∧
    ∀ now' script later, let turns := ⟨i, now', .tell script⟩ :: later
      r.2.answers turns = q.answers turns ∧
      ∃ u : Process ι, q.performAll turns = u.after q.log ∧ r.2.performAll turns = u.after r.2.log := by
  intro q r
  obtain ⟨hrest, hpending⟩ := Process.poised_performAll (Process.poised_of_closed hclosed) before s hs
  have hending : Ending w (q.desk i now) s (w.action.outcome (q.desk i now)) :=
    ending_of_session hw hs hrest
  rcases hr : w.action.outcome (q.desk i now) with ⟨answer, t⟩
  have hperform : r = (answer, q.leave i t) := perform_write hr
  rw [hr] at hending
  cases hending with
  | undone hsteps _ hleft =>
    -- nothing waited, so nothing but the script has changed
    have hempty : s.engine.source.content.rollback = s.engine.source.content := by
      rw [Content.rollback, Engine.content, hpending ⟨trivial, hrolled⟩]
    rw [hempty] at hleft
    obtain rfl := Except.error.inj (hsteps.symm.trans hfails)
    have htold := Process.told_of_left hs hleft
    obtain ⟨hshelf, w', hindex, hleft⟩ := hleft
    rw [hperform]
    refine ⟨rfl, rfl, hshelf, ⟨⟨w', s.place⟩, ?_, ?_, ?_⟩, fun now' script later => ?_⟩
    · rw [leave_handle_self, hindex]
    · exact congrArg Content.committed hleft.content
    · exact congrArg Content.visible hleft.content
    · refine Process.answers_tell hshelf (fun j hj => leave_handle_of_ne hj q t) ?_ now' later
      rw [leave_handle_self]
      exact htold script
  | stuck _ hrollback _ _ _ =>
    rw [haccepted] at hrollback
    exact absurd hrollback nofun
  | escaped _ hrollback _ _ _ =>
    rw [haccepted] at hrollback
    exact absurd hrollback nofun
  | done hsteps _ _ _ =>
    rw [hsteps] at hfails
    exact absurd hfails nofun
  | unseen hsteps _ _ _ =>
    rw [hsteps] at hfails
    exact absurd hfails nofun

/-- A build of one document over another is broken off by its elements, and is as if it had not been.
-/
theorem failing_write_undone_midway :
    let e : Element := { id := "a", name := "a", payload := .asset }
    let f : Element := { id := "b", name := "b", payload := .asset }
    let q := Process.single.performAll
      [⟨(), .zero, .openIndex fun _ => none⟩, ⟨(), .zero, .write (.update (some e))⟩]
    let r := q.perform ⟨(), .zero, .write (.build [.ok (some f), .error (.fault .nothingLeft)])⟩
    r.1 = .error (.catalog (.writeFailed "build_index" "pop from empty list")) ∧
      ∀ script later, r.2.answers (⟨(), .zero, .tell script⟩ :: later) =
        q.answers (⟨(), .zero, .tell script⟩ :: later) := by
  intro e f q r
  obtain ⟨s, hs, haccepted⟩ : ∃ s, (q.handle ()).session = some s ∧
      s.engine.source.refusal? .rollback = none := ⟨_, rfl, rfl⟩
  have hupdate : ((Write.update (some e)).steps.outcome ((Process.single.performAll
      [⟨(), .zero, .openIndex fun _ => none⟩]).desk () .zero)).1 = .ok () := by decide +kernel
  -- the update before went through, so no rollback was refused before the failing build
  have hrolled : ¬ Process.single.RollbackRefused ()
      [⟨(), .zero, .openIndex fun _ => none⟩, ⟨(), .zero, .write (.update (some e))⟩] := by
    rintro (⟨-, h⟩ | ⟨-, -, ⟨e', he'⟩, -⟩ | h)
    · exact h
    · exact absurd (hupdate.symm.trans he') nofun
    · exact h
  have hfails : ((Write.build [.ok (some f), .error (.fault .nothingLeft)]).steps.outcome
    (q.desk () .zero)).1 = .error (.fault .nothingLeft) := by decide +kernel
  obtain ⟨hanswer, -, -, -, hlater⟩ := failing_write_undone Process.single _ () .zero
    (.build [.ok (some f), .error (.fault .nothingLeft)]) s (.fault .nothingLeft) rfl hrolled hs rfl
    hfails haccepted
  exact ⟨hanswer, fun script later => (hlater .zero script later).1⟩

/-! ## The contract of a write

A write is honoured if it succeeds and is there, or fails with an error of the catalogue and is not.
Which of them are can be told from the script: what breaks the contract is a reload that is refused
behind the commit, or a rollback that is refused. -/

/-- **The contract.** A write returns and its changes are committed, behind those that waited, or it
is reported and nothing is committed. -/
def Write.Honored (w : Write) (s s' : Session) (answer : Except Failure Answer) : Prop :=
  (∃ a, answer = .ok a ∧ s'.engine.source.committed =
    s.engine.source.committed.changeAll (s.engine.source.pending ++ w.changes)) ∨
  ∃ e, answer = .error (.catalog e) ∧ e.code = .indexWriteFailed ∧
    s'.engine.source.committed = s.engine.source.committed

/-- **When the contract is kept.** A write on an open handle honors its contract just if its rollback,
where it needs one, is not refused other than for a file or a value, and its reload, where it comes
to one, is not refused at all. -/
theorem write_honored_iff (p : Process ι) (before : List (Turn ι)) (i : ι) (now : Binary64)
    (w : Write) (s : Session) (hclosed : (p.handle i).session = none)
    (hs : ((p.performAll before).handle i).session = some s) (hw : w.isPresent = true) :
    let q := p.performAll before
    let r := q.perform ⟨i, now, .write w⟩
    ∃ s', (r.2.handle i).session = some s' ∧ (w.Honored s s' r.1 ↔
      match (w.steps.outcome (q.desk i now)).1 with
      | .error _ => ∀ f, s.engine.source.refusal? .rollback = some f → f.isFileOrValue = true
      | .ok () => s.engine.source.refusal? .reload = none) := by
  intro q r
  obtain ⟨hrest, -⟩ := Process.poised_performAll (Process.poised_of_closed hclosed) before s hs
  have hending : Ending w (q.desk i now) s (w.action.outcome (q.desk i now)) :=
    ending_of_session hw hs hrest
  rcases hr : w.action.outcome (q.desk i now) with ⟨answer, t⟩
  have hperform : r = (answer, q.leave i t) := perform_write hr
  rw [hr] at hending
  rw [hperform]
  dsimp only
  rw [leave_handle_self]
  obtain ⟨s', hs', -, hcommitted⟩ := committed_of_ending hending hrest
  refine ⟨s', hs', ?_⟩
  unfold Write.leaves at hcommitted
  -- a failed write is honored unless its rollback escapes, and a successful one unless its reload
  -- fails
  cases hending with
  | undone hsteps hrollback _ =>
    rw [hsteps] at hcommitted ⊢
    rw [hrollback]
    exact iff_of_true (.inr ⟨_, rfl, rfl, hcommitted⟩) nofun
  | stuck hsteps hrollback hf _ _ =>
    rw [hsteps] at hcommitted ⊢
    rw [hrollback]
    refine iff_of_true (.inr ⟨_, rfl, rfl, hcommitted⟩) fun f' hf' => ?_
    rw [← Option.some.inj hf']
    exact hf
  | escaped hsteps hrollback hf _ _ =>
    rw [hsteps, hrollback]
    refine iff_of_false ?_ fun h => ?_
    · rintro (⟨a, ha, -⟩ | ⟨e, he, -⟩)
      · exact absurd ha nofun
      · exact absurd he nofun
    · rw [h _ rfl] at hf
      exact absurd hf nofun
  | done hsteps hreload _ _ =>
    rw [hsteps] at hcommitted ⊢
    exact iff_of_true (.inl ⟨_, rfl, hcommitted⟩) hreload
  | unseen hsteps hreload _ _ =>
    rw [hsteps, hreload]
    refine iff_of_false ?_ nofun
    rintro (⟨a, ha, -⟩ | ⟨e, he, -⟩)
    · exact absurd ha nofun
    · exact absurd he nofun

/-- A commit that is refused for a file, and whose rollback is refused so as well, honors the
contract. -/
theorem write_honored_stuck :
    let e : Element := { id := "a", name := "a", payload := .asset }
    let script : Script := fun c => if c = .commit ∨ c = .rollback then [some diskFull] else []
    let before : List (Turn Unit) :=
      [⟨(), .zero, .openIndex fun _ => none⟩, ⟨(), .zero, .tell script⟩]
    let t : Turn Unit := ⟨(), .zero, .write (.update (some e))⟩
    ∃ s s', ((Process.single.performAll before).handle ()).session = some s ∧
      (((Process.single.performAll before).perform t).2.handle ()).session = some s' ∧
        (Write.update (some e)).Honored s s' ((Process.single.performAll before).perform t).1 := by
  intro e script before t
  obtain ⟨s, hs, hrollback⟩ : ∃ s, ((Process.single.performAll before).handle ()).session = some s ∧
      s.engine.source.refusal? .rollback = some diskFull := ⟨_, rfl, rfl⟩
  have hsteps : ((Write.update (some e)).steps.outcome
    ((Process.single.performAll before).desk () .zero)).1 = .error (.fault diskFull) := by
      decide +kernel
  obtain ⟨s', hs', hiff⟩ :=
    write_honored_iff Process.single before () .zero (.update (some e)) s rfl hs rfl
  refine ⟨s, s', hs, hs', hiff.mpr ?_⟩
  rw [hsteps]
  -- the rollback fails for want of space, which is a failure of a file
  intro f hf
  rw [hrollback] at hf
  obtain rfl := Option.some.inj hf
  rfl

/-- **Contracts that are broken.** An update whose reload is refused raises the fault of the reload
although it is committed; and one whose commit is refused raises the fault of the rollback if that is
none of a file or a value. -/
theorem write_not_honored :
    let e : Element := { id := "a", name := "a", payload := .asset }
    let busy : Fault := .raised .state "the writer is busy"
    let unseen : Script := fun c => if c = .reload then [some diskFull] else []
    let escaped : Script := fun c =>
      if c = .commit then [some diskFull] else if c = .rollback then [some busy] else []
    let q := fun script => Process.single.performAll
      [⟨(), .zero, .openIndex fun _ => none⟩, ⟨(), .zero, .tell script⟩]
    let r := fun script => (q script).perform ⟨(), .zero, .write (.update (some e))⟩
    (r unseen).1 = .error (.fault diskFull) ∧ (r escaped).1 = .error (.fault busy) ∧
      ∃ s s', ((q unseen).handle ()).session = some s ∧
        ((r unseen).2.handle ()).session = some s' ∧ s.engine.source.committed.live = [] ∧
          s'.engine.source.committed.live = [projection e] :=
  ⟨by decide +kernel, by decide +kernel, _, _, rfl, rfl, rfl, by decide⟩

/-! ## What is committed over a run

The documents after a run are what the writes that were carried out make of those before. A write
whose rollback was refused is not forgotten by the engine, and the next commit takes it along. -/

namespace Write

/-- Whether a write is carried out: all its steps succeed, the commit among them. -/
def carried (w : Write) (d : Desk) : Bool :=
  d.index.isOpen && w.isPresent && (w.steps.outcome d).1.isOk

def returns (w : Write) (d : Desk) : Bool :=
  (w.action.outcome d).1.isOk

end Write

/-- Whether the engine of an open handle shows readers the next commit. -/
def Desk.reloads (d : Desk) : Bool :=
  d.index.session.any fun s => s.engine.source.refusal? .reload = none

namespace Process

/-- The write of some kind that a handle is asked for in a turn. -/
def writing? (p : Process ι) (i : ι) (which : Write → Desk → Bool) (t : Turn ι) : Option Write :=
  match t.deed with
  | .write w => if t.handle = i ∧ which w (p.desk i t.now) = true then some w else none
  | _ => none

/-- A turn without a write of the handle is no writing of it. -/
theorem writing?_eq_none {which : Write → Desk → Bool} {t : Turn ι}
    (h : ∀ w, t.deed = .write w → t.handle ≠ i) : p.writing? i which t = none := by
  unfold writing?
  split
  · rename_i w hw
    exact if_neg fun hi => h w hw hi.1
  · rfl

/-- The writes of some kind that a handle is asked for in turns. -/
def writes (p : Process ι) (i : ι) (which : Write → Desk → Bool) : List (Turn ι) → List Write
  | [] => []
  | t :: turns => (p.writing? i which t).toList ++ (p.perform t).2.writes i which turns

end Process

namespace Desk

variable {c : Collection} {d : Desk}

/-- Reading commits nothing. -/
theorem steady_committed : Steady (Committed c) := by
  refine steady_of_calm (fun _ _ h => h) fun d s hd hs => ?_
  obtain ⟨s', hs', hrest, hc⟩ := hd
  obtain rfl := Option.some.inj (hs'.symm.trans hs)
  exact ⟨Watched.Unmoved c, Watched.calm_unmoved c, ⟨hrest, hc⟩,
    fun w hw => ⟨_, rfl, hw.rest, hw.committed⟩⟩

theorem carried_eq {w : Write} {s : Session} (hs : d.index.session = some s)
    (hw : w.isPresent = true) : w.carried d = (w.steps.outcome d).1.isOk := by
  rw [Write.carried, Index.isOpen_of_session hs, hw, Bool.true_and, Bool.true_and]

/-- A write that is refused at the door is not carried out. -/
theorem carried_of_refused {w : Write} (h : w.isPresent = false ∨ d.index.session = none) :
    w.carried d = false := by
  rcases h with hw | hclosed
  · rw [Write.carried, hw, Bool.and_false, Bool.false_and]
  · rw [Write.carried, Index.isOpen_eq_false.mpr hclosed, Bool.false_and, Bool.false_and]

/-- Where nothing waits, what a write commits is its effect alone. -/
theorem committed_write {w : Write} {s : Session} (hs : d.index.session = some s)
    (hrest : s.engine.readers.AtRest) (hpending : s.engine.source.pending = []) :
    ∃ c, Committed c (w.action.outcome d).2 ∧
      c.live = if w.carried d then w.effect s.engine.source.committed.live
        else s.engine.source.committed.live := by
  -- a write that is not there changes nothing before the desk is asked
  by_cases hw : w.isPresent = true
  · refine ⟨w.leaves d s, committed_of_ending (ending_of_session hw hs hrest) hrest, ?_⟩
    rw [carried_eq hs hw, Write.leaves]
    rcases (w.steps.outcome d).1 with e | _
    · rfl
    · dsimp only
      rw [hpending, List.nil_append, w.live_changeAll_changes]
      rfl
  · rw [Bool.not_eq_true] at hw
    obtain ⟨r, hr⟩ := outcome_action_refused (d := d) (.inl hw)
    rw [hr, carried_of_refused (.inl hw)]
    exact ⟨_, ⟨s, hs, hrest, rfl⟩, rfl⟩

/-- A write returns just if it is carried out and readers are shown that. -/
theorem returns_eq {w : Write} {clean : Prop} (hd : Poised clean d) :
    w.returns d = (w.carried d && d.reloads) := by
  by_cases hrefused : w.isPresent = false ∨ d.index.session = none
  · obtain ⟨r, hr⟩ := outcome_action_refused hrefused
    rw [Write.returns, hr, carried_of_refused hrefused]
    rfl
  obtain ⟨hw, hopen⟩ := not_or.mp hrefused
  rw [Bool.not_eq_false] at hw
  obtain ⟨s, hs⟩ := Option.ne_none_iff_exists'.mp hopen
  have hending := ending_of_session hw hs (hd s hs).1
  rcases hr : w.action.outcome d with ⟨r, t⟩
  rw [hr] at hending
  rw [Write.returns, hr, carried_eq hs hw, reloads, hs]
  dsimp only [Option.any_some]
  -- in every ending but one the steps or the reload have failed
  cases hending with
  | undone hsteps _ _ =>
    rw [hsteps]
    rfl
  | stuck hsteps _ _ _ _ =>
    rw [hsteps]
    rfl
  | escaped hsteps _ _ _ _ =>
    rw [hsteps]
    rfl
  | done hsteps hreload _ _ =>
    rw [hsteps, hreload]
    rfl
  | unseen hsteps hreload _ _ =>
    rw [hsteps, hreload]
    rfl

end Desk

/-- A deed that is neither a write nor a closing leaves the commit of an open handle alone. -/
theorem Desk.keeps_committed {c : Collection} {deed : Deed} (hcloses : deed.closes = false)
    (hwrite : ∀ w, deed ≠ .write w) : Keeps (Committed c) deed.action := by
  have hsteady : Steady (Committed c) := steady_committed
  have hopen : ∀ d, Committed c d → d.index.isOpen = true := by
    rintro d ⟨s, hs, -⟩
    exact Index.isOpen_of_session hs
  cases deed with
  | make path heap threads interval =>
    -- nothing is made where a handle is open
    refine (Keeps.modify fun d hd => ?_).bind fun _ => Keeps.pure _
    rw [if_pos (hopen d hd)]
    exact hd
  | openIndex faults =>
    refine Keeps.bind (fun d hd => ?_) fun _ => Keeps.pure _
    rw [outcome_openStruck_open faults (hopen d hd)]
    exact hd
  | closeIndex => exact absurd hcloses nofun
  | leave raised => exact absurd hcloses nofun
  | write w => exact absurd rfl (hwrite w)
  | refresh => exact hsteady.refreshNow.bind fun _ => Keeps.pure _
  | read r => exact (hsteady.read r).bind fun _ => Keeps.pure _
  | count => exact hsteady.docCount.bind fun _ => Keeps.pure _
  | tell script =>
    refine (Keeps.modify ?_).bind fun _ => Keeps.pure _
    rintro d ⟨s, hs, hrest, hc⟩
    refine ⟨{ s with engine := { s.engine with
      source := { s.engine.source with script := script } } }, ?_, hrest, hc⟩
    rw [hs]
    rfl
  | world shelf => exact fun _ hd => hd

namespace Process

/-- **The step.** A turn in which a handle is not closed leaves it open, and the documents are those
that a write makes of them which is carried out. -/
theorem committed_perform {c : Collection} {t : Turn ι} (hp : p.Poised True i)
    (hc : ∀ now, Committed c (p.desk i now)) (hcloses : t.handle = i → t.deed.closes = false) :
    ∃ c', (∀ now, Committed c' ((p.perform t).2.desk i now)) ∧ c'.live =
      (p.writing? i Write.carried t).toList.foldl (fun ds w => w.effect ds) c.live := by
  obtain ⟨j, now, deed⟩ := t
  by_cases hj : j = i
  · subst hj
    -- what the desk of the handle leaves is what the handle has then
    have hleave : ∀ {c'}, Committed c' (deed.action.outcome (p.desk j now)).2 →
        ∀ now', Committed c' ((p.perform ⟨j, now, deed⟩).2.desk j now') := by
      rintro c' ⟨s, hs, h⟩ now'
      refine ⟨s, ?_, h⟩
      show ((p.perform ⟨j, now, deed⟩).2.handle j).session = some s
      rw [perform_handle_self]
      exact hs
    by_cases hwrite : ∃ w, deed = .write w
    · obtain ⟨w, rfl⟩ := hwrite
      obtain ⟨s, hs, hrest, rfl⟩ := hc now
      obtain ⟨c', hc', hlive⟩ := committed_write (w := w) hs hrest ((hp s hs).2 trivial)
      refine ⟨c', hleave hc', hlive.trans ?_⟩
      unfold writing?
      dsimp only
      rcases w.carried (p.desk j now)
      · rw [if_neg Bool.false_ne_true, if_neg (fun h => Bool.false_ne_true h.2)]
        rfl
      · rw [if_pos rfl, if_pos ⟨rfl, rfl⟩]
        rfl
    · rw [writing?_eq_none fun w hw => absurd ⟨w, hw⟩ hwrite]
      refine ⟨c, hleave (keeps_committed (hcloses rfl) (fun w h => hwrite ⟨w, h⟩) _ (hc now)), rfl⟩
  · rw [writing?_eq_none fun _ _ => hj]
    refine ⟨c, fun now' => ?_, rfl⟩
    obtain ⟨s, hs, h⟩ := hc now'
    refine ⟨s, ?_, h⟩
    show ((p.perform ⟨j, now, deed⟩).2.handle i).session = some s
    rw [perform_handle_of_ne p (Ne.symm hj)]
    exact hs

/-- **The run.** -/
theorem committed_performAll {c : Collection} {turns : List (Turn ι)} (hp : p.Poised True i)
    (hc : ∀ now, Committed c (p.desk i now)) (hrolled : ¬ p.RollbackRefused i turns)
    (hcloses : ∀ t ∈ turns, t.handle = i → t.deed.closes = false) :
    ∃ c', (∀ now, Committed c' ((p.performAll turns).desk i now)) ∧ c'.live =
      (p.writes i Write.carried turns).foldl (fun ds w => w.effect ds) c.live := by
  induction turns generalizing p c with
  | nil => exact ⟨c, hc, rfl⟩
  | cons t turns ih =>
    obtain ⟨c₁, hc₁, hlive₁⟩ := committed_perform hp hc (hcloses t (by simp))
    -- no rollback is refused in the turn, so nothing waits after it
    have hp₁ : (p.perform t).2.Poised True i := by
      intro s hs
      obtain ⟨hrest, hpending⟩ := poised_perform hp t s hs
      exact ⟨hrest, fun _ => hpending ⟨trivial, fun h => hrolled (.inl h)⟩⟩
    obtain ⟨c₂, hc₂, hlive₂⟩ := ih hp₁ hc₁ (fun h => hrolled (.inr h))
      fun t ht => hcloses t (by simp [ht])
    refine ⟨c₂, hc₂, ?_⟩
    rw [hlive₂, hlive₁, writes, List.foldl_append]

/-- Over a run, the writes that return are those that are carried out and shown to readers. -/
theorem writes_returns {clean : Prop} {turns : List (Turn ι)} (hp : p.Poised clean i) :
    p.writes i Write.returns turns = p.writes i (fun w d => w.carried d && d.reloads) turns := by
  induction turns generalizing p clean with
  | nil => rfl
  | cons t turns ih =>
    -- a turn writes only if it is a turn of this handle
    have hturn : p.writing? i Write.returns t =
        p.writing? i (fun w d => w.carried d && d.reloads) t := by
      unfold writing?
      split
      · by_cases hi : t.handle = i
        · subst hi
          rw [returns_eq (d := p.desk t.handle t.now) hp]
        · rw [if_neg fun h => hi h.1, if_neg fun h => hi h.1]
      · rfl
    rw [writes, writes, hturn, ih (poised_perform hp t)]

end Process

/-- **The documents of a run.** Let a handle be open since it was closed last, let it stay open, and
let none of its rollbacks be refused. Then its documents are those that the writes that are carried
out make of them, each by its own effect; and the writes that return are carried out, all of them but
those whose reload is refused. -/
theorem documents_of_run (p : Process ι) (before turns : List (Turn ι)) (i : ι) (s : Session)
    (hclosed : (p.handle i).session = none)
    (hs : ((p.performAll before).handle i).session = some s)
    (hrolled : ¬ p.RollbackRefused i (before ++ turns))
    (hcloses : ∀ t ∈ turns, t.handle = i → t.deed.closes = false) :
    let q := p.performAll before
    (∃ s', ((q.performAll turns).handle i).session = some s' ∧
      s'.engine.source.committed.live = (q.writes i Write.carried turns).foldl
        (fun ds w => w.effect ds) s.engine.source.committed.live) ∧
    q.writes i Write.returns turns = q.writes i (fun w d => w.carried d && d.reloads) turns := by
  intro q
  rw [Process.rollbackRefused_append, not_or] at hrolled
  have hp : q.Poised (True ∧ ¬ p.RollbackRefused i before) i :=
    Process.poised_performAll (Process.poised_of_closed hclosed) before
  -- nothing waits, because no rollback was refused on the way here
  have hpoised : q.Poised True i := by
    intro s hs
    obtain ⟨hrest, hpending⟩ := hp s hs
    exact ⟨hrest, fun _ => hpending ⟨trivial, hrolled.1⟩⟩
  refine ⟨?_, Process.writes_returns hpoised⟩
  obtain ⟨c, hc, hlive⟩ := Process.committed_performAll hpoised
    (fun _ => ⟨s, hs, (hp s hs).1, rfl⟩) hrolled.2 hcloses
  obtain ⟨s', hs', -, rfl⟩ := hc .zero
  exact ⟨s', hs', hlive⟩

/-- Two updates, of which the second is refused and taken back, and a deletion of what is not there. -/
theorem documents_of_run_update :
    let e : Element := { id := "a", name := "a", payload := .asset }
    let f : Element := { id := "b", name := "b", payload := .asset }
    let script : Script := fun c => if c = .commit then [some diskFull] else []
    let before : List (Turn Unit) := [⟨(), .zero, .openIndex fun _ => none⟩]
    let turns : List (Turn Unit) := [⟨(), .zero, .write (.update (some e))⟩,
      ⟨(), .zero, .tell script⟩, ⟨(), .zero, .write (.update (some f))⟩,
      ⟨(), .zero, .write (.delete (.text "c"))⟩]
    ∃ s', (((Process.single.performAll before).performAll turns).handle ()).session = some s' ∧
      s'.engine.source.committed.live = [projection e] := by
  intro e f script before turns
  let q := Process.single.performAll before
  -- the turns of the run, and what they find
  let t₁ : Turn Unit := ⟨(), .zero, .write (.update (some e))⟩
  let t₂ : Turn Unit := ⟨(), .zero, .tell script⟩
  let t₃ : Turn Unit := ⟨(), .zero, .write (.update (some f))⟩
  have h₁ : ((Write.update (some e)).steps.outcome (q.desk () .zero)).1 = .ok () := by
    decide +kernel
  have h₃ : ((q.performAll [t₁, t₂]).handle ()).session.map
      (·.engine.source.refusal? .rollback) = some none := by decide +kernel
  have h₄ : ((Write.delete (.text "c")).steps.outcome
      ((q.performAll [t₁, t₂, t₃]).desk () .zero)).1 = .ok () := by decide +kernel
  have hrolled : ¬ Process.single.RollbackRefused () (before ++ turns) := by
    rintro (⟨-, h⟩ | ⟨-, -, ⟨e', he'⟩, -⟩ | ⟨-, h⟩ | ⟨-, -, -, s, f', hs, hf'⟩ |
      ⟨-, -, ⟨e', he'⟩, -⟩ | h)
    · exact h
    · exact absurd (h₁.symm.trans he') nofun
    · exact h
    · have h := h₃.symm.trans (congrArg (Option.map _) hs)
      rw [Option.map_some, hf'] at h
      exact absurd h nofun
    · exact absurd (h₄.symm.trans he') nofun
    · exact h
  have hcloses : ∀ t ∈ turns, t.handle = () → t.deed.closes = false := by
    intro t ht _
    simp only [turns, List.mem_cons, List.not_mem_nil, or_false] at ht
    rcases ht with rfl | rfl | rfl | rfl <;> rfl
  obtain ⟨s, hs, hlive⟩ : ∃ s, (q.handle ()).session = some s ∧
      s.engine.source.committed.live = [] := ⟨_, rfl, rfl⟩
  obtain ⟨⟨s', hs', hdocuments⟩, -⟩ :=
    documents_of_run Process.single before turns () s rfl hs hrolled hcloses
  have hwrites : (Process.single.performAll before).writes () Write.carried turns =
      [.update (some e), .delete (.text "c")] := rfl
  refine ⟨s', hs', ?_⟩
  rw [hdocuments, hwrites, hlive]
  decide +kernel

/-- **A write that leaks.** The second update is reported, its rollback is refused and logged; the
deletion of what is not there commits it. -/
theorem failed_update_committed :
    let e : Element := { id := "a", name := "a", payload := .asset }
    let f : Element := { id := "b", name := "b", payload := .asset }
    let script : Script := fun c => if c = .commit ∨ c = .rollback then [some diskFull] else []
    let q := Process.single.performAll
      [⟨(), .zero, .openIndex fun _ => none⟩, ⟨(), .zero, .write (.update (some e))⟩,
        ⟨(), .zero, .tell script⟩]
    let turns : List (Turn Unit) := [⟨(), .zero, .write (.update (some f))⟩,
      ⟨(), .zero, .write (.delete (.text "c"))⟩]
    q.answers turns = [.error (.catalog (.writeFailed "update" "no space left on device")),
        .ok .done] ∧
      ∃ s s', (q.handle ()).session = some s ∧
        ((q.performAll turns).handle ()).session = some s' ∧
          s.engine.source.committed.live = [projection e] ∧
            (Write.delete (.text "c")).effect s.engine.source.committed.live = [projection e] ∧
              s'.engine.source.committed.live = [projection e, projection f] :=
  ⟨by decide +kernel, _, _, rfl, rfl, by decide +kernel, by decide +kernel, by decide +kernel⟩

/-- **A build heals.** It makes its elements the documents whatever waited before it, rollbacks that
were refused or not. -/
theorem documents_of_build (p : Process ι) (before : List (Turn ι)) (i : ι) (now : Binary64)
    (es : Feed) (s : Session) (hclosed : (p.handle i).session = none)
    (hs : ((p.performAll before).handle i).session = some s)
    (hcarried : (Write.build es).carried ((p.performAll before).desk i now) = true) :
    ∃ s', (((p.performAll before).perform ⟨i, now, .write (.build es)⟩).2.handle i).session = some s' ∧
      s'.engine.source.committed.live = (Store.added es).map projection := by
  let q := p.performAll before
  obtain ⟨hrest, -⟩ := Process.poised_performAll (Process.poised_of_closed hclosed) before s hs
  obtain ⟨s', hs', -, hcommitted⟩ := committed_of_ending
    (ending_of_session (w := .build es) (d := q.desk i now) rfl hs hrest) hrest
  refine ⟨s', ?_, ?_⟩
  · rw [Process.perform_handle_self]
    exact hs'
  · rw [carried_eq (d := q.desk i now) hs rfl] at hcarried
    unfold Write.leaves at hcommitted
    -- a build that carried went through all its steps, and the first of them clears the collection
    rcases hsteps : ((Write.build es).steps.outcome (q.desk i now)).1 with e | _
    · rw [hsteps] at hcarried
      exact absurd hcarried nofun
    · rw [hsteps] at hcommitted
      dsimp only at hcommitted
      rw [hcommitted, Write.changes_build, ← List.append_assoc, Collection.live_changeAll_clear]

end CodeCatalog.Search
