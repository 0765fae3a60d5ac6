/-
Laying tables over each other where they stand in memory.

`Datum.mergeOver` gives a new table. Here the same is done step by step in memory: a table is a cell
whose rows hold values or refer to other cells, the lower table is copied into a new cell, and the
rows of the upper one are put there one after the other. Copying takes over the references, so the
new table shares cells with both old ones. That nothing is changed that was there before rests on
the new cell being out of sight meanwhile: no row that is put into it leads back to it. So what a
cell shows is told with some cells hidden (`Cells.sight`), and the induction carries the new cells
of all levels above as hidden ones (`Lays`).
-/
import CodeCatalog.Proofs.Settings.Layers

set_option autoImplicit false

namespace CodeCatalog

/-! ## Memory

Tables in memory are cells with rows. What a cell shows is the table that one finds by following the
references, as far as they lead to cells in sight. -/

/-- What a row holds: a value, or a reference to the cell of a table. -/
inductive Slot
  | value (d : Datum)
  | table (cell : Nat)

/-- The rows of a table in memory. -/
abbrev Rows := List (Scalar × Slot)

namespace Rows

/-- The content under a key. -/
def get? (rows : Rows) (key : Scalar) : Option Slot :=
  (rows.find? (·.1.sameKey key)).map (·.2)

/-- The rows with a content under a key, in its old place if it has one and at the end otherwise. -/
def put (rows : Rows) (key : Scalar) (c : Slot) : Rows :=
  match rows with
  | [] => [(key, c)]
  | (k, old) :: rest => if k.sameKey key then (k, c) :: rest else (k, old) :: put rest key c

/-- A key is looked up in the first row, and below it if that row has another one. -/
theorem get?_cons (r : Scalar × Slot) (rows : Rows) (key : Scalar) :
    get? (r :: rows) key = if r.1.sameKey key then some r.2 else get? rows key := by
  rw [get?, List.find?_cons]
  split <;> simp [*, get?]

end Rows

/-- All tables in memory. A new one goes to the end. -/
abbrev Cells := List Rows

namespace Cells

/-- Put rows one after the other into a cell. Where two tables meet under a key, `deeper` lays one
over the other. -/
def layRows (deeper : (base top : Nat) → Cells → Option (Nat × Cells)) (into : Nat) :
    Rows → Cells → Option Cells
  | [], cells => some cells
  | (key, c) :: rest, cells => do
    let rows ← cells[into]?
    match Rows.get? rows key, c with
    | some (.table old), .table new =>
      let (merged, cells) ← deeper old new cells
      layRows deeper into rest (cells.modify into (Rows.put · key (.table merged)))
    | _, c => layRows deeper into rest (cells.modify into (Rows.put · key c))

/-- Lay the table in one cell over that in another one. The result stands in a new cell. There may
be no more levels of tables that meet than given. -/
def merge : (levels : Nat) → (base top : Nat) → Cells → Option (Nat × Cells)
  | 0, _, _, _ => none
  | levels + 1, base, top, cells => do
    let lower ← cells[base]?
    let upper ← cells[top]?
    let merged ← layRows (merge levels) cells.length upper (cells ++ [lower])
    return (cells.length, merged)

/-- The rows of all cells but hidden ones. -/
def sight (cells : Cells) (hidden : List Nat) (cell : Nat) : Option Rows :=
  if cell ∈ hidden then none else cells[cell]?

end Cells

mutual

/-- What a row holds shows a datum, as far as cells are in sight. -/
inductive Shows (sight : Nat → Option Rows) : Slot → Datum → Prop
  | value {d : Datum} (hvalue : d.isTable = false) : Shows sight (.value d) d
  | table {cell : Nat} {rows : Rows} {entries : Entries} (hcell : sight cell = some rows)
    (hrows : ShowsRows sight rows entries) : Shows sight (.table cell) (.table entries)

/-- Rows show entries, one by one. -/
inductive ShowsRows (sight : Nat → Option Rows) : Rows → Entries → Prop
  | nil : ShowsRows sight [] []
  | cons {key : Scalar} {c : Slot} {d : Datum} {rows : Rows} {entries : Entries}
    (hfirst : Shows sight c d) (hrest : ShowsRows sight rows entries) :
    ShowsRows sight ((key, c) :: rows) ((key, d) :: entries)

end

section Sight

variable {sight sight' : Nat → Option Rows} {rows : Rows} {entries : Entries} {c : Slot}
  {d : Datum}

mutual

/-- With more in sight, the same is shown. -/
theorem Shows.mono (hmore : ∀ cell rows, sight cell = some rows → sight' cell = some rows) :
    ∀ {c : Slot} {d : Datum}, Shows sight c d → Shows sight' c d
  | _, _, .value hvalue => .value hvalue
  | _, _, .table hcell hrows => .table (hmore _ _ hcell) (hrows.mono hmore)

/-- With more in sight, the same rows are shown. -/
theorem ShowsRows.mono (hmore : ∀ cell rows, sight cell = some rows → sight' cell = some rows) :
    ∀ {rows : Rows} {entries : Entries}, ShowsRows sight rows entries → ShowsRows sight' rows entries
  | _, _, .nil => .nil
  | _, _, .cons hfirst hrest => .cons (hfirst.mono hmore) (hrest.mono hmore)

end

/-- A key is in the rows and in the entries that they show, or in neither. -/
theorem ShowsRows.get? (h : ShowsRows sight rows entries) (key : Scalar) :
    Rows.get? rows key = none ∧ entries.get? key = none ∨
      ∃ c d, Rows.get? rows key = some c ∧ entries.get? key = some d ∧ Shows sight c d := by
  induction entries generalizing rows with
  | nil =>
    cases h
    exact .inl ⟨rfl, rfl⟩
  | cons e entries ih =>
    -- rows and entries have the same keys in the same order, so both are looked up alike
    cases h with
    | cons hfirst hrest =>
      rw [Rows.get?_cons, Entries.get?_cons]
      split_ifs
      · exact .inr ⟨_, _, rfl, rfl, hfirst⟩
      · exact ih hrest

/-- Putting keeps showing. -/
theorem ShowsRows.put (h : ShowsRows sight rows entries) (key : Scalar) (hc : Shows sight c d) :
    ShowsRows sight (Rows.put rows key c) (entries.put key d) := by
  induction entries generalizing rows with
  | nil =>
    cases h
    exact .cons hc .nil
  | cons e entries ih =>
    cases h with
    | cons hfirst hrest =>
      -- the row is written where the entry is
      rw [Rows.put, Entries.put]
      split_ifs
      · exact .cons hc hrest
      · exact .cons hfirst (ih hrest)

end Sight

namespace Datum

mutual

/-- How many levels of tables there are. -/
def depth : Datum → Nat
  | .table entries => depthIn entries + 1
  | _ => 0

/-- The levels of tables in the deepest entry. -/
def depthIn : List (Scalar × Datum) → Nat
  | [] => 0
  | (_, d) :: rest => max (depth d) (depthIn rest)

end

/-- No entry is deeper than the table that it stands in. -/
theorem depth_le_depthIn {t : Entries} {e : Scalar × Datum} (he : e ∈ t) :
    e.2.depth ≤ depthIn t := by
  induction t with
  | nil => exact absurd he List.not_mem_nil
  | cons e' t ih =>
    rw [depthIn]
    rcases List.mem_cons.mp he with rfl | hrest
    · exact le_max_left _ _
    · exact (ih hrest).trans (le_max_right _ _)

end Datum

namespace Cells

open Datum

variable {cells cells' : Cells} {hidden : List Nat} {cell : Nat} {rows upper : Rows}
  {old : Cells} {b t : Entries} {c : Slot} {d v : Datum}

/-! ## Sight

More cells show no less. A cell may be hidden if nothing that is shown leads there, and then it can
be changed without changing what is shown. -/

/-- New cells at the end hide none of those before. -/
theorem sight_append (h : cells <+: cells') (hcell : cells.sight hidden cell = some rows) :
    cells'.sight hidden cell = some rows := by
  unfold sight at *
  split_ifs at hcell ⊢ with hmem
  obtain ⟨more, rfl⟩ := h
  rw [List.getElem?_append_left (List.getElem?_eq_some_iff.mp hcell).1, hcell]

/-- A cell that is only yet to come may be hidden. -/
theorem sight_hide (hcell : cells.sight hidden cell = some rows) :
    cells.sight (cells.length :: hidden) cell = some rows := by
  unfold sight at *
  split_ifs at hcell with hmem
  have hlength : cell < cells.length := (List.getElem?_eq_some_iff.mp hcell).1
  rw [if_neg, hcell]
  intro h
  rcases List.mem_cons.mp h with rfl | h
  · omega
  · exact hmem h

/-- With one cell less hidden, no less is in sight. -/
theorem sight_reveal {other : Nat} (hcell : cells.sight (other :: hidden) cell = some rows) :
    cells.sight hidden cell = some rows := by
  unfold sight at *
  split_ifs at hcell with hmem
  rw [if_neg, hcell]
  intro h
  exact hmem (List.mem_cons_of_mem other h)

/-- What is in sight is in memory. -/
theorem getElem?_of_sight (hcell : cells.sight hidden cell = some rows) :
    cells[cell]? = some rows := by
  unfold sight at hcell
  split_ifs at hcell
  exact hcell

/-- What a hidden cell holds makes no difference to what is in sight. -/
theorem sight_modify (f : Rows → Rows) (hmem : cell ∈ hidden) :
    Cells.sight (cells.modify cell f) hidden = cells.sight hidden := by
  funext other
  unfold sight
  split_ifs with hother
  · rfl
  · rw [List.getElem?_modify_ne]
    rintro rfl
    exact hother hmem

/-! ## Putting a row

The new table grows behind the old cells, row by row, out of sight until it is done. -/

/-- A new cell behind the old ones, whose rows are being put. While it is hidden they show `b`. -/
structure Growing (old : Cells) (hidden : List Nat) (cells : Cells) (rows : Rows) (b : Entries) :
    Prop where
  cells_eq : ∃ more, cells = old ++ rows :: more
  shows : ShowsRows (cells.sight (old.length :: hidden)) rows b

/-- Changing the cell behind the old ones leaves those alone, and the ones after it too. -/
theorem modify_append (old : Cells) (rows : Rows) (more : Cells) (f : Rows → Rows) :
    (old ++ rows :: more).modify old.length f = old ++ f rows :: more := by
  induction old with
  | nil => rfl
  | cons r old ih =>
    rw [List.cons_append, List.length_cons, List.modify_succ_cons, ih]
    rfl

/-- The table that grows stands right behind the old cells. -/
theorem Growing.getElem? (h : Growing old hidden cells rows b) : cells[old.length]? = some rows := by
  obtain ⟨more, rfl⟩ := h.cells_eq
  rw [List.getElem?_append_right le_rfl, Nat.sub_self]
  rfl

theorem Growing.old_prefix (h : Growing old hidden cells rows b) : old <+: cells := by
  obtain ⟨more, rfl⟩ := h.cells_eq
  exact List.prefix_append _ _

/-- A row that is put into the new cell changes no other cell. -/
theorem Growing.put (h : Growing old hidden cells rows b) (hmore : cells <+: cells') (key : Scalar)
    (hc : Shows (cells'.sight (old.length :: hidden)) c d) :
    Growing old hidden (cells'.modify old.length (Rows.put · key c)) (Rows.put rows key c)
      (b.put key d) := by
  constructor
  · obtain ⟨more, rfl⟩ := h.cells_eq
    obtain ⟨more', rfl⟩ := hmore
    rw [List.append_assoc, List.cons_append, modify_append]
    exact ⟨more ++ more', rfl⟩
  · rw [sight_modify _ List.mem_cons_self]
    apply ShowsRows.put _ _ hc
    exact h.shows.mono fun _ _ => sight_append hmore

/-! ## Laying rows

Each row of the upper table is put, or laid over the table that meets it. The induction is on the
levels of tables, and within a level on the rows. -/

/-- Laying the table in one cell over that in another one shows the data over each other, in a new
cell, and leaves all cells that are there as they are. So it does if some of them are hidden. -/
def Lays (lay : (base top : Nat) → Cells → Option (Nat × Cells)) (t : Entries) : Prop :=
  ∀ {cells : Cells} {hidden : List Nat} {base top : Nat} {b : Entries},
    (∀ cell ∈ hidden, cell < cells.length) →
    Shows (cells.sight hidden) (.table base) (.table b) →
    Shows (cells.sight hidden) (.table top) (.table t) →
    ∃ merged cells', lay base top cells = some (merged, cells') ∧ cells <+: cells' ∧
      Shows (cells'.sight hidden) (.table merged) (.table (mergeOver b t))

variable {deeper : (base top : Nat) → Cells → Option (Nat × Cells)}

/-- Where not two tables meet, a row is put as it is. -/
theorem layRows_put {into : Nat} {key : Scalar} (hrows : cells[into]? = some rows)
    (h : ∀ lower upper, Rows.get? rows key = some (.table lower) → c ≠ .table upper) (rest : Rows) :
    layRows deeper into ((key, c) :: rest) cells =
      layRows deeper into rest (cells.modify into (Rows.put · key c)) := by
  rw [layRows, hrows, Option.bind_eq_bind, Option.bind_some]
  split
  · rename_i lower upper hlower
    exact absurd rfl (h lower upper hlower)
  · rfl

/-- Where two tables meet, what is put is a reference to the one laid over the other. -/
theorem layRows_meet {into lower upper merged : Nat} {key : Scalar}
    (hrows : cells[into]? = some rows) (hget : Rows.get? rows key = some (.table lower))
    (hdeeper : deeper lower upper cells = some (merged, cells')) (rest : Rows) :
    layRows deeper into ((key, .table upper) :: rest) cells =
      layRows deeper into rest (cells'.modify into (Rows.put · key (.table merged))) := by
  simp only [layRows, hrows, hget, hdeeper, Option.bind_eq_bind, Option.bind_some]

/-- While rows are put, the cells that are hidden are there, and the new one is one of them. -/
theorem Growing.lt_length (h : Growing old hidden cells rows b)
    (hhidden : ∀ cell ∈ hidden, cell < old.length) :
    ∀ cell ∈ old.length :: hidden, cell < cells.length := by
  have hlength : old.length < cells.length := (List.getElem?_eq_some_iff.mp h.getElem?).1
  intro cell hcell
  rcases List.mem_cons.mp hcell with rfl | hcell
  · exact hlength
  · exact (hhidden cell hcell).trans hlength

/-- A row that is put as it is. -/
theorem Growing.layRows_put (h : Growing old hidden cells rows b)
    (hc : Shows (cells.sight (old.length :: hidden)) c v) {key : Scalar}
    (hlaid : laid (b.get? key) v = v)
    (hapart : ∀ lower upper, Rows.get? rows key = some (.table lower) → c ≠ .table upper)
    (rest : Rows) :
    ∃ cells' rows',
      layRows deeper old.length ((key, c) :: rest) cells = layRows deeper old.length rest cells' ∧
      Growing old hidden cells' rows' (b.put key (laid (b.get? key) v)) := by
  have hput := h.put (List.prefix_refl cells) key hc
  rw [hlaid]
  exact ⟨_, _, Cells.layRows_put h.getElem? hapart rest, hput⟩

/-- Where two tables meet, one is laid over the other while the new cell is hidden, too. -/
theorem Growing.layRows_meet (h : Growing old hidden cells rows b)
    (hhidden : ∀ cell ∈ hidden, cell < old.length) {key : Scalar} {lower upper : Nat}
    {b' : Entries} (hget : Rows.get? rows key = some (.table lower))
    (hb : b.get? key = some (.table b'))
    (hlower : Shows (cells.sight (old.length :: hidden)) (.table lower) (.table b'))
    (hupper : Shows (cells.sight (old.length :: hidden)) (.table upper) (.table t))
    (hdeeper : Lays deeper t) (rest : Rows) :
    ∃ cells' rows',
      layRows deeper old.length ((key, .table upper) :: rest) cells =
        layRows deeper old.length rest cells' ∧
      Growing old hidden cells' rows' (b.put key (laid (b.get? key) (.table t))) := by
  -- the table below is merged first, into a cell of its own, and the row gets that cell
  obtain ⟨merged, cells', hmerge, hmore, hmerged⟩ := hdeeper (h.lt_length hhidden) hlower hupper
  have hlaid : laid (b.get? key) (.table t) = .table (mergeOver b' t) := by
    rw [hb]
    exact merge_tables rfl rfl
  have hput := h.put hmore key hmerged
  rw [hlaid]
  exact ⟨_, _, Cells.layRows_meet h.getElem? hget hmerge rest, hput⟩

/-- **One row**: what is put under its key is laid over what is there. -/
theorem layRows_cons (h : Growing old hidden cells rows b)
    (hhidden : ∀ cell ∈ hidden, cell < old.length) (hc : Shows (old.sight hidden) c v)
    (hv : v.Nested) (hdeeper : ∀ t, v = .table t → Lays deeper t) (key : Scalar) (rest : Rows) :
    ∃ cells' rows',
      layRows deeper old.length ((key, c) :: rest) cells = layRows deeper old.length rest cells' ∧
      Growing old hidden cells' rows' (b.put key (laid (b.get? key) v)) := by
  have hrow : Shows (cells.sight (old.length :: hidden)) c v :=
    hc.mono fun _ _ hcell => sight_append h.old_prefix (sight_hide hcell)
  -- only where two tables meet is anything laid deeper
  cases hv with
  | value hvalue hbare =>
    refine h.layRows_put hrow ?_ ?_ rest
    · cases b.get? key with
      | none => rfl
      | some u => exact merge_value hvalue hbare u
    · rintro lower upper - rfl
      cases hc
      exact absurd hvalue nofun
  | @table t hkeys hvalues =>
    rcases h.shows.get? key with ⟨hrows, hb⟩ | ⟨c', u, hrows, hb, hmeet⟩
    · refine h.layRows_put hrow ?_ ?_ rest
      · rw [hb]
        rfl
      · intro lower upper hlower
        rw [hrows] at hlower
        exact absurd hlower nofun
    · cases hmeet with
      | value hvalue =>
        refine h.layRows_put hrow ?_ ?_ rest
        · rw [hb]
          exact merge_of_not_table (bare_ne_table hvalue)
        · intro lower upper hlower
          rw [hrows] at hlower
          exact absurd (Option.some.inj hlower) nofun
      | table hcell hshows =>
        cases hrow with
        | value hvalue => exact absurd hvalue nofun
        | table hcell' hshows' =>
          exact h.layRows_meet hhidden hrows hb (.table hcell hshows) (.table hcell' hshows')
            (hdeeper t rfl) rest

/-- **All rows**, one after the other. -/
theorem layRows_growing (hhidden : ∀ cell ∈ hidden, cell < old.length)
    (hupper : ShowsRows (old.sight hidden) upper t) (ht : ∀ e ∈ t, e.2.Nested)
    (hdeeper : ∀ e ∈ t, ∀ t', e.2 = .table t' → Lays deeper t')
    (h : Growing old hidden cells rows b) :
    ∃ cells' rows', layRows deeper old.length upper cells = some cells' ∧
      Growing old hidden cells' rows' (mergeOver b t) := by
  induction t generalizing upper cells rows b with
  | nil =>
    cases hupper
    exact ⟨cells, rows, rfl, h⟩
  -- one row of the upper table at a time: it is put or merged below, and what has grown so far is
  -- shown again
  | cons e t ih =>
    cases hupper with
    | @cons key c v upper _ hfirst hrest =>
      obtain ⟨cells', rows', heq, hgrowing⟩ := layRows_cons h hhidden hfirst
        (ht _ List.mem_cons_self) (hdeeper _ List.mem_cons_self) key upper
      rw [heq, mergeOver_cons]
      apply ih hrest _ _ hgrowing
      · intro e he
        exact ht e (List.mem_cons_of_mem _ he)
      · intro e he
        exact hdeeper e (List.mem_cons_of_mem _ he)

/-- **Laying tables over each other in memory** does what laying the data does, and changes nothing
that is there, with as many levels as the upper table has. -/
theorem lays_merge {levels : Nat} (hlevels : (Datum.table t).depth ≤ levels)
    (ht : (Datum.table t).Nested) : Lays (merge levels) t := by
  induction levels generalizing t with
  | zero => exact absurd hlevels (by rw [depth]; omega)
  | succ levels ih =>
    intro cells hidden base top b hhidden hbase htop
    cases hbase with
    | @table _ lower _ hlower hlowerRows =>
      cases htop with
      | @table _ upper _ hupper hupperRows =>
        have hlength : cells.length ∉ hidden := fun h => absurd (hhidden _ h) (lt_irrefl _)
        have hvalues : ∀ e ∈ t, e.2.Nested := by
          intro e he
          exact ht.get? (ht.distinct.get?_of_mem he)
        have hdeeper : ∀ e ∈ t, ∀ t', e.2 = .table t' → Lays (merge levels) t' := by
          intro e he t' ht'
          have hdepth := depth_le_depthIn he
          rw [depth] at hlevels
          rw [ht'] at hdepth
          apply ih
          · omega
          · rw [← ht']
            exact hvalues e he
        -- the lower table is copied, and the copy takes the rows of the upper one
        have hcopy : Growing cells hidden (cells ++ [lower]) lower b := by
          refine ⟨⟨[], rfl⟩, hlowerRows.mono ?_⟩
          intro cell rows hcell
          exact sight_append (List.prefix_append _ _) (sight_hide hcell)
        obtain ⟨cells', rows, hlay, hgrown⟩ :=
          layRows_growing hhidden hupperRows hvalues hdeeper hcopy
        have hmerge : merge (levels + 1) base top cells = some (cells.length, cells') := by
          rw [merge, getElem?_of_sight hlower, getElem?_of_sight hupper]
          show (layRows (merge levels) cells.length upper (cells ++ [lower])).bind _ = _
          rw [hlay]
          rfl
        have hrows : cells'.sight hidden cells.length = some rows := by
          rw [sight, if_neg hlength, hgrown.getElem?]
        refine ⟨cells.length, cells', hmerge, hgrown.old_prefix, .table hrows ?_⟩
        exact hgrown.shows.mono fun _ _ => sight_reveal

end Cells

namespace Datum

/-- A table with a table, a table in it, and a value. -/
def lowerLayer : Entries :=
  [(.text "a", .table [(.text "x", .scalar (.int 1)),
    (.text "y", .table [(.text "z", .scalar (.int 2))])]), (.text "b", .scalar (.int 3))]

/-- A table that has a value for a table of the other one, and a table for its value. -/
def upperLayer : Entries :=
  [(.text "b", .table [(.text "c", .scalar (.int 4))]),
    (.text "a", .table [(.text "y", .scalar (.int 5))])]

/-- Both tables in memory, at the cells 0 and 3. -/
def layerCells : Cells :=
  [[(.text "a", .table 1), (.text "b", .value (.scalar (.int 3)))],
    [(.text "x", .value (.scalar (.int 1))), (.text "y", .table 2)],
    [(.text "z", .value (.scalar (.int 2)))],
    [(.text "b", .table 4), (.text "a", .table 5)],
    [(.text "c", .value (.scalar (.int 4)))],
    [(.text "y", .value (.scalar (.int 5)))]]

/-- The keys of the lower layer are distinct on each level. -/
theorem nested_lowerLayer : (Datum.table lowerLayer).Nested := by
  have hvalue : ∀ n : Int, (Datum.scalar (.int n)).Nested := fun n => .value rfl rfl
  have hinner : (Datum.table [(.text "z", .scalar (.int 2))]).Nested :=
    .table (by decide) (by simp [hvalue])
  have houter : (Datum.table [(.text "x", .scalar (.int 1)),
      (.text "y", .table [(.text "z", .scalar (.int 2))])]).Nested :=
    .table (by decide) (by simp [hvalue, hinner])
  exact .table (by decide) (by simp [lowerLayer, hvalue, houter])

/-- The keys of the upper layer are distinct on each level. -/
theorem nested_upperLayer : (Datum.table upperLayer).Nested := by
  have hvalue : ∀ n : Int, (Datum.scalar (.int n)).Nested := fun n => .value rfl rfl
  have hinner : ∀ key n, (Datum.table [(.text key, .scalar (.int n))]).Nested :=
    fun key n => .table (List.pairwise_singleton _ _) (by simp [hvalue])
  exact .table (by decide) (by simp [upperLayer, hinner])

end Datum

end CodeCatalog
