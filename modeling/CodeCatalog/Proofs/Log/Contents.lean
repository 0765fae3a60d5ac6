/-
What streams and files hold once lines were written.

A stream shows the lines that went to it behind what it showed before, and a file holds those that
went to it behind what it held; a file is told by its place, which several paths may lead to.
Nothing else has changed (`Output.Gains`). A line is written into a file only if the file is there,
which is so for the files of the sinks from the time they were put up (`gains_addAll`).
-/
import CodeCatalog.Proofs.Storage.Growth

set_option autoImplicit false

namespace CodeCatalog.Log

variable {α : Type} {folder q : Place} {o o' : Output α} {lines : List Written}

/-- The bytes of a file with more lines. -/
def withLines (bytes : ByteArray) (lines : List String) : ByteArray :=
  lines.foldl (fun bytes line => bytes ++ (line ++ "\n").toUTF8) bytes

/-- Whether a line goes to the file at a place. -/
def goesTo (folder q : Place) (w : Written) : Bool :=
  match w.1 with
  | .file path => path.place? folder = some q
  | _ => false

/-- The lines of some that are chosen. -/
def chosen (choice : Written → Bool) (lines : List Written) : List String :=
  (lines.filter choice).map (·.2)

/-- **What lines add** to the streams and the files: behind what is there, just the lines for it. -/
structure Output.Gains (folder : Place) (o : Output α) (lines : List Written) (o' : Output α) :
    Prop where
  stderr : o'.stderr = o.stderr ++ chosen (·.1 = .stderr) lines
  stdout : o'.stdout = o.stdout ++ chosen (·.1 = .stdout) lines
  files : ∀ q, (o'.tree.get? q).map Entry.bytes =
    (o.tree.get? q).map fun x => withLines x.bytes (chosen (goesTo folder q) lines)

/-- No lines, nothing gained. -/
theorem Output.Gains.nil (folder : Place) (o : Output α) : o.Gains folder [] o := by
  refine ⟨?_, ?_, fun q => rfl⟩
  · exact (List.append_nil _).symm
  · exact (List.append_nil _).symm

theorem chosen_cons (choice : Written → Bool) (w : Written) (lines : List Written) :
    chosen choice (w :: lines) = chosen choice [w] ++ chosen choice lines := by
  rw [chosen, chosen, chosen, ← List.map_append, ← List.filter_append, List.singleton_append]

/-- What the first line adds and what the others add are added together. -/
theorem Output.Gains.cons {between : Output α} {w : Written} (h : o.Gains folder [w] between)
    (h' : between.Gains folder lines o') : o.Gains folder (w :: lines) o' := by
  refine ⟨?_, ?_, fun q => ?_⟩
  · rw [h'.stderr, h.stderr, List.append_assoc, ← chosen_cons]
  · rw [h'.stdout, h.stdout, List.append_assoc, ← chosen_cons]
  · have hfirst := h.files q
    have hrest := h'.files q
    rw [chosen_cons]
    -- a file that is not there gets no lines, and a file that is there gets those of each step in
    -- turn
    cases hentry : o.tree.get? q with
    | none =>
      have hnone : between.tree.get? q = none := by simpa [hentry] using hfirst
      simpa [hnone] using hrest
    | some x =>
      obtain ⟨y, hy, hbytes⟩ : ∃ y, between.tree.get? q = some y ∧
          y.bytes = withLines x.bytes (chosen (goesTo folder q) [w]) := by
        simpa [hentry] using hfirst
      rw [hrest, hy]
      simp only [Option.map_some, hbytes, withLines, List.foldl_append]

/-- One line into a file that is there. -/
theorem gains_appendLine {path : Path} (h : o.tree.HasFile folder path) (line : String) :
    o.Gains folder [(.file path, line)] (o.add folder (.file path, line)) := by
  obtain ⟨place, x, hplace, hentry, hx, happend⟩ := appendLine_eq_put h line
  -- the root is a folder, so it is not what the line is written into
  have hroot : place ≠ [] := by
    rintro rfl
    exact hx (Option.some.inj hentry).symm
  refine ⟨?_, ?_, fun q => ?_⟩
  · exact (List.append_nil _).symm
  · exact (List.append_nil _).symm
  · show ((appendLine o.tree folder path line).get? q).map Entry.bytes = _
    rw [happend]
    by_cases hq : q = place
    · have hgoes : goesTo folder q (.file path, line) = true := by
        simp [goesTo, hplace, hq]
      rw [hq] at hgoes ⊢
      rw [Tree.get?_put_self hroot, hentry, chosen, List.filter_cons_of_pos hgoes]
      rfl
    · have hgoes : goesTo folder q (.file path, line) = false := by
        simpa [goesTo, hplace] using fun h : place = q => hq h.symm
      rw [Tree.get?_put_of_ne hq, chosen, List.filter_cons_of_neg (by simp [hgoes])]
      rfl

/-- A line goes to a file that is there and leaves it there. -/
theorem hasFile_add {path : Path} {w : Written} (h : o.tree.HasFile folder path)
    (hw : ∀ p, w.1 = .file p → o.tree.HasFile folder p) :
    (o.add folder w).tree.HasFile folder path := by
  obtain ⟨d, line⟩ := w
  cases d with
  | stderr => exact h
  | stdout => exact h
  | file p =>
    -- a line goes to a file that is there, and makes no other one
    obtain ⟨place, x, -, hentry, hx, happend⟩ := appendLine_eq_put (hw p rfl) line
    have hgrown : Tree.Grown [] [place] o.tree (appendLine o.tree folder p line) := by
      rw [happend]
      refine Tree.grown_put (List.mem_singleton_self place) ?_ nofun
      rw [hentry]
      exact fun heq => hx (Option.some.inj heq)
    exact h.grown hgrown

/-- **Lines are added** where they go, as long as the files that they go to are there. -/
theorem gains_addAll (h : ∀ w ∈ lines, ∀ path, w.1 = .file path → o.tree.HasFile folder path) :
    o.Gains folder lines (o.addAll folder lines) := by
  induction lines generalizing o with
  | nil => exact .nil folder o
  | cons w lines ih =>
    rw [List.forall_mem_cons] at h
    have hfirst : o.Gains folder [w] (o.add folder w) := by
      obtain ⟨d, line⟩ := w
      cases d with
      | stderr => exact ⟨rfl, (List.append_nil _).symm, fun q => rfl⟩
      | stdout => exact ⟨(List.append_nil _).symm, rfl, fun q => rfl⟩
      | file path => exact gains_appendLine (h.1 path rfl) line
    -- the files of the other lines are still there behind the first one
    exact hfirst.cons (ih fun w' hw' path hpath => hasFile_add (h.2 w' hw' path hpath) h.1)

end CodeCatalog.Log
