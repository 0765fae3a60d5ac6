/-
What a settings file writes is sound data: no key of a mapping stands twice, and labels stand on
collections alone.

The mappings that are built have their keys once because each entry is put into the table so far.
Collections are stored by one function only, so all others are passed over at once: they leave the
collections as they are (`Keeps`). Writing the collections out as data keeps the keys.
-/
import CodeCatalog.Proofs.Settings.Merge
import CodeCatalog.Yaml.Data

set_option autoImplicit false

namespace CodeCatalog.Yaml

namespace Build

variable {α β : Type} {m : Build α} {f : α → Build β} {b b' : Builder}

/-! ## Steps that leave the collections alone

Most steps look at nodes and parts. A rule for each way of putting steps together lets them be
passed over at once. -/

/-- A step that does not touch the collections. -/
def Keeps (m : Build α) : Prop :=
  ∀ b a b', m b = .ok (a, b') → b'.collections = b.collections

/-- What a step that goes on and succeeds has behind it. -/
theorem exists_of_bind {c : β} (h : (m >>= f) b = .ok (c, b')) :
    ∃ a b₁, m b = .ok (a, b₁) ∧ f a b₁ = .ok (c, b') := by
  change (m b >>= fun x => f x.1 x.2) = _ at h
  rcases hm : m b with e | ⟨a, b₁⟩
  · rw [hm] at h
    exact absurd h nofun
  · rw [hm] at h
    exact ⟨a, b₁, rfl, h⟩

/-- A step that only gives something. -/
theorem keeps_pure (a : α) : Keeps (pure a) := by
  intro b a' b' h
  obtain ⟨-, rfl⟩ := Prod.mk.inj (Except.ok.inj h)
  rfl

theorem keeps_throw (e : Error) : Keeps (throw e : Build α) :=
  fun _ _ _ h => absurd h nofun

/-- Looking changes nothing. -/
theorem keeps_get : Keeps (get : Build Builder) := by
  intro b a' b' h
  obtain ⟨-, rfl⟩ := Prod.mk.inj (Except.ok.inj h)
  rfl

/-- A change of something else than the collections. -/
theorem keeps_modify {g : Builder → Builder} (hg : ∀ b, (g b).collections = b.collections) :
    Keeps (modify g : Build Unit) := by
  intro b a' b' h
  obtain ⟨-, rfl⟩ := Prod.mk.inj (Except.ok.inj h)
  exact hg b

/-- Two steps, one after the other. -/
theorem Keeps.bind (hm : Keeps m) (hf : ∀ a, Keeps (f a)) : Keeps (m >>= f) := by
  intro b c b' h
  obtain ⟨a, b₁, hm', hf'⟩ := exists_of_bind h
  rw [hf a b₁ c b' hf', hm b a b₁ hm']

/-- One step for each of several things. -/
theorem keeps_mapM {f : α → Build β} (hf : ∀ a, Keeps (f a)) (as : List α) :
    Keeps (as.mapM f) := by
  induction as with
  | nil => exact keeps_pure []
  | cons a as ih =>
    rw [List.mapM_cons]
    exact (hf a).bind fun _ => ih.bind fun _ => keeps_pure _

/-! ### Single values

These read nodes, and may refuse them. -/

theorem keeps_nodeAt (number : Nat) : Keeps (nodeAt number) :=
  keeps_get.bind fun _ => keeps_pure _

theorem keeps_refuse (reason : Malformed) : Keeps (refuse reason : Build α) :=
  keeps_throw _

theorem keeps_replace (number : Nat) (n : Node) : Keeps (replace number n) :=
  keeps_modify fun _ => rfl

theorem keeps_textOf (fuel number : Nat) : Keeps (textOf fuel number) := by
  induction fuel generalizing number with
  | zero => exact keeps_throw _
  | succ fuel ih =>
    refine (keeps_nodeAt number).bind fun n => ?_
    cases n with
    | scalar => exact keeps_pure _
    | sequence => exact keeps_refuse _
    | mapping t entries =>
      refine keeps_get.bind fun b => ?_
      split
      · exact ih _
      · exact keeps_refuse _

theorem keeps_requireDateText (n : Node) : Keeps (requireDateText n) := by
  cases n with
  | scalar => exact keeps_pure _
  | _ => exact keeps_throw _

/-- A single value is read off the text of its node, and a date is asked for its form first. -/
theorem keeps_scalarOf (n : Node) (number : Nat) : Keeps (scalarOf n number) := by
  rw [scalarOf]
  split
  iterate 3 exact keeps_refuse _
  refine keeps_get.bind fun b => (keeps_textOf _ _).bind fun s => ?_
  dsimp only
  -- a date is asked for its form first; after that the text is read in the same way
  split
  · refine (keeps_requireDateText n).bind fun _ => ?_
    split
    · exact keeps_pure _
    · exact keeps_throw _
  · split
    · exact keeps_pure _
    · exact keeps_throw _

/-- A part is kept apart from the collections, where it is found again when the node is met once
more. -/
theorem keeps_part (number : Nat) : Keeps (part number) := by
  refine keeps_get.bind fun b => ?_
  split
  · exact keeps_pure _
  · refine (keeps_nodeAt number).bind fun n => ?_
    -- what is found is kept among the parts, and the collections are not touched by that
    have hstore : ∀ p : Part, Keeps (do
        modify fun s => { s with parts := s.parts.setIfInBounds number (some p) }
        return p) := by
      intro p
      refine Keeps.bind (keeps_modify ?_) fun _ => keeps_pure p
      exact fun _ => rfl
    dsimp only
    split
    · refine Keeps.bind (keeps_modify ?_) fun _ => hstore _
      exact fun _ => rfl
    · exact ((keeps_scalarOf n number).bind fun _ => keeps_pure _).bind hstore

/-! ### Merging

Merging changes the entries of nodes before any collection is built from them. -/

theorem keeps_entriesOf (number : Nat) : Keeps (entriesOf number) := by
  refine (keeps_nodeAt number).bind fun n => ?_
  cases n <;> exact keeps_pure _

/-- Settling a mapping changes its node, not a collection. -/
theorem keeps_setEntries (number : Nat) (entries : List (Nat × Nat)) :
    Keeps (setEntries number entries) := by
  refine (keeps_nodeAt number).bind fun n => ?_
  cases n with
  | mapping => exact keeps_replace _ _
  | _ => exact keeps_pure _

theorem keeps_putMerged (number : Nat) (merged : List (Nat × Nat)) :
    Keeps (putMerged number merged) := by
  rw [putMerged]
  split
  · exact (keeps_entriesOf number).bind fun _ => keeps_setEntries _ _
  · exact keeps_pure _

/-- Keys are read as single values. -/
theorem keeps_settleKey (key : Nat) : Keeps (settleKey key) := by
  refine (keeps_nodeAt key).bind fun n => ?_
  split
  · exact keeps_replace _ _
  · exact keeps_pure _

/-- Entries of mappings that are merged in are collected before any is stored. -/
theorem keeps_mergeEntries {find : Nat → Build (List (Nat × Nat))} (hfind : ∀ n, Keeps (find n))
    (number : Nat) (kept merged entries : List (Nat × Nat)) :
    Keeps (mergeEntries find number kept merged entries) := by
  induction entries generalizing kept merged with
  | nil => exact keeps_putMerged _ _
  | cons e rest ih =>
    obtain ⟨key, value⟩ := e
    refine (keeps_nodeAt key).bind fun n => ?_
    split
    · refine (keeps_setEntries _ _).bind fun _ => (hfind value).bind fun more =>
        (keeps_entriesOf number).bind fun now => ?_
      split
      · exact ih _ _
      · exact keeps_putMerged _ _
    · exact (keeps_settleKey key).bind fun _ => ih _ _

theorem keeps_flatEntries {find : Nat → Build (List (Nat × Nat))} (hfind : ∀ n, Keeps (find n))
    (number : Nat) : Keeps (flatEntries find number) :=
  (keeps_entriesOf number).bind fun _ => (keeps_mergeEntries hfind _ _ _ _).bind fun _ =>
    keeps_entriesOf number

theorem keeps_itemEntries {flat : Nat → Build (List (Nat × Nat))} (hflat : ∀ n, Keeps (flat n))
    (items : List Nat) : Keeps (itemEntries flat items) := by
  induction items with
  | nil => exact keeps_pure _
  | cons item rest ih =>
    refine (keeps_nodeAt item).bind fun n => ?_
    cases n with
    | mapping => exact (hflat item).bind fun _ => ih.bind fun _ => keeps_pure _
    | _ => exact keeps_refuse _

/-- Merging goes down from mapping to mapping and reads nodes all the way. -/
theorem keeps_mergedOf (fuel number : Nat) : Keeps (mergedOf fuel number) := by
  induction fuel generalizing number with
  | zero => exact keeps_throw _
  | succ fuel ih =>
    refine (keeps_nodeAt number).bind fun n => ?_
    cases n with
    | mapping => exact keeps_flatEntries ih number
    | sequence => exact keeps_itemEntries (keeps_flatEntries ih) _
    | scalar => exact keeps_refuse _

/-! ### Parts of collections

The parts of a table, a list or a pair are looked up by their numbers; what is made of them is
stored elsewhere. -/

/-- The keys and values of a table are parts, and the table itself is not stored yet. -/
theorem keeps_tableOf (entries : List (Nat × Nat)) (done : List (Scalar × Part)) :
    Keeps (tableOf entries done) := by
  induction entries generalizing done with
  | nil => exact keeps_pure _
  | cons e rest ih =>
    obtain ⟨key, value⟩ := e
    refine (keeps_part key).bind fun p => ?_
    cases p with
    | collection => exact keeps_refuse _
    | scalar k => exact (keeps_part value).bind fun v => ih _

theorem keeps_tableAt (number : Nat) : Keeps (tableAt number) := by
  refine (keeps_nodeAt number).bind fun n => ?_
  cases n with
  | mapping =>
    exact keeps_get.bind fun b => (keeps_flatEntries (keeps_mergedOf _) number).bind fun _ =>
      keeps_tableOf _ _
  | _ => exact keeps_refuse _

theorem keeps_pairAt (number : Nat) : Keeps (pairAt number) := by
  refine (keeps_nodeAt number).bind fun n => ?_
  split
  · exact (keeps_part _).bind fun _ => (keeps_part _).bind fun _ => keeps_pure _
  · exact keeps_refuse _

theorem keeps_itemsAt (number : Nat) : Keeps (itemsAt number) := by
  refine (keeps_nodeAt number).bind fun n => ?_
  cases n with
  | sequence => exact keeps_pure _
  | _ => exact keeps_refuse _

/-- A collection is put together here and stored by the caller. -/
theorem keeps_collection (number : Nat) : Keeps (collection number) := by
  refine (keeps_nodeAt number).bind fun n => ?_
  split
  · exact (keeps_itemsAt number).bind fun _ => (keeps_mapM keeps_part _).bind fun _ =>
      keeps_pure _
  iterate 2
    exact (keeps_itemsAt number).bind fun _ => (keeps_mapM keeps_pairAt _).bind fun _ =>
      keeps_pure _
  · exact (keeps_tableAt number).bind fun _ => keeps_pure _
  · exact (keeps_tableAt number).bind fun _ => keeps_pure _

/-! ## Keys of tables

The table of a node is put together entry by entry, and putting an entry never doubles a key.
`Yields` carries this through the steps that may fail. -/

/-- The keys of a table of parts. -/
def keysOf (entries : List (Scalar × Part)) : Entries :=
  entries.map fun e => (e.1, .null)

/-- No key stands twice in a table. -/
def KeysOnce : Collection → Prop
  | .table entries => (keysOf entries).Distinct
  | _ => True

/-- Keys are kept as a table keeps them. -/
theorem keysOf_putKey (entries : List (Scalar × Part)) (key : Scalar) (v : Part) :
    keysOf (putKey entries key v) = (keysOf entries).put key .null := by
  induction entries with
  | nil => rfl
  | cons e rest ih =>
    rw [putKey, keysOf, keysOf, List.map_cons, Entries.put]
    split
    · rfl
    · exact congrArg (List.cons _) ih

/-- Whatever a step gives has a property. -/
def Yields (m : Build α) (P : α → Prop) : Prop :=
  ∀ b a b', m b = .ok (a, b') → P a

theorem yields_pure {P : α → Prop} {a : α} (ha : P a) : Yields (pure a) P := by
  intro b a' b' h
  exact (Prod.mk.inj (Except.ok.inj h)).1 ▸ ha

theorem yields_refuse {P : α → Prop} (reason : Malformed) : Yields (refuse reason) P :=
  fun _ _ _ h => absurd h nofun

/-- What a step gives last is all that counts. -/
theorem yields_bind {P : β → Prop} (hf : ∀ a, Yields (f a) P) : Yields (m >>= f) P := by
  intro b c b' h
  obtain ⟨a, b₁, -, hf'⟩ := exists_of_bind h
  exact hf a b₁ c b' hf'

/-- What the first step gives is known to the second one. -/
theorem Yields.bind {P : α → Prop} {Q : β → Prop} (hm : Yields m P)
    (hf : ∀ a, P a → Yields (f a) Q) : Yields (m >>= f) Q := by
  intro b c b' h
  obtain ⟨a, b₁, hm', hf'⟩ := exists_of_bind h
  exact hf a (hm b a b₁ hm') b₁ c b' hf'

/-- Each entry is put into the table so far, so no key is there twice. -/
theorem yields_tableOf (entries : List (Nat × Nat)) {done : List (Scalar × Part)}
    (hdone : (keysOf done).Distinct) :
    Yields (tableOf entries done) fun es => (keysOf es).Distinct := by
  induction entries generalizing done with
  | nil => exact yields_pure hdone
  | cons e rest ih =>
    obtain ⟨key, value⟩ := e
    refine yields_bind fun p => ?_
    cases p with
    | collection => exact yields_refuse _
    | scalar k => exact yields_bind fun v => ih (keysOf_putKey done k v ▸ hdone.put k .null)

/-- The table of a node has each key once, from the empty one on. -/
theorem yields_tableAt (number : Nat) :
    Yields (tableAt number) fun es => (keysOf es).Distinct := by
  refine yields_bind fun n => ?_
  cases n with
  | mapping =>
    have hnone : (keysOf []).Distinct := List.Pairwise.nil
    exact yields_bind fun b => yields_bind fun entries => yields_tableOf entries hnone
  | _ => exact yields_refuse _

/-- The tables that are built have their keys once. -/
theorem yields_collection (number : Nat) : Yields (collection number) KeysOnce := by
  refine yields_bind fun n => ?_
  split
  · exact yields_bind fun _ => yields_bind fun _ => yields_pure trivial
  iterate 2 exact yields_bind fun _ => yields_bind fun _ => yields_pure trivial
  · exact yields_bind fun _ => yields_pure trivial
  · exact (yields_tableAt number).bind fun _ hkeys => yields_pure hkeys

/-- Every collection that is stored has its keys once. -/
def Stored (collections : Array (Option Collection)) : Prop :=
  ∀ (n : Nat) c, collections[n]?.join = some c → KeysOnce c

/-- Storing one more collection of this kind. -/
theorem Stored.set {collections : Array (Option Collection)} (h : Stored collections)
    (number : Nat) {c : Collection} (hc : KeysOnce c) :
    Stored (collections.setIfInBounds number (some c)) := by
  intro n c' hc'
  rw [Array.getElem?_setIfInBounds] at hc'
  split at hc'
  · split at hc'
    · exact Option.some.inj hc' ▸ hc
    · exact absurd hc' nofun
  · exact h n c' hc'

/-- Storing the collections that wait. -/
theorem stored_of_forM {round : List Nat} {u : Unit} (hb : Stored b.collections)
    (h : (round.forM fun number => do
      let c ← collection number
      modify fun s => { s with collections := s.collections.setIfInBounds number (some c) } :
        Build Unit) b = .ok (u, b')) : Stored b'.collections := by
  induction round generalizing b with
  | nil => exact (Prod.mk.inj (Except.ok.inj h)).2 ▸ hb
  | cons number round ih =>
    obtain ⟨_, b₁, hfirst, h⟩ := exists_of_bind h
    obtain ⟨c, b₂, hc, hset⟩ := exists_of_bind hfirst
    refine ih ?_ h
    rw [← (Prod.mk.inj (Except.ok.inj hset)).2]
    exact (keeps_collection number b c b₂ hc ▸ hb).set number (yields_collection number b c b₂ hc)

/-- Building what waits stores one collection for each node, and each has its keys once. -/
theorem stored_of_buildWaiting {fuel : Nat} {u : Unit} (hb : Stored b.collections)
    (h : buildWaiting fuel b = .ok (u, b')) : Stored b'.collections := by
  induction fuel generalizing b with
  | zero => exact (Prod.mk.inj (Except.ok.inj h)).2 ▸ hb
  | succ fuel ih =>
    obtain ⟨b₁, b₂, hget, h⟩ := exists_of_bind h
    obtain rfl : b = b₂ := (Prod.mk.inj (Except.ok.inj hget)).2
    dsimp only at h
    split at h
    · obtain ⟨_, b₃, hclear, h⟩ := exists_of_bind h
      obtain ⟨_, b₄, hround, h⟩ := exists_of_bind h
      have hb₃ : Stored b₃.collections := (Prod.mk.inj (Except.ok.inj hclear)).2 ▸ hb
      exact ih (stored_of_forM hb₃ hround) h
    · exact (Prod.mk.inj (Except.ok.inj h)).2 ▸ hb

/-- **What is built has its keys once.** -/
theorem stored_of_build {g : Graph} {built : Built} (h : g.build = .ok built) :
    Stored built.collections := by
  have hempty : Stored (Array.replicate g.nodes.size none) := by
    intro n c hc
    rw [Array.getElem?_replicate] at hc
    split at hc <;> exact absurd hc nofun
  obtain ⟨b, hb, hrun⟩ : ∃ b : Builder, Stored b.collections ∧
      ((Build.build g.root b) >>= fun x => .ok { root := x.1, collections := x.2.collections }) =
        Except.ok built := ⟨_, hempty, h⟩
  rcases hbuild : Build.build g.root b with e | ⟨root, b'⟩
  -- the building succeeded, so each of its steps did, and the collections are passed on by each
  · rw [hbuild] at hrun
    exact absurd hrun nofun
  · rw [hbuild] at hrun
    rw [← Except.ok.inj hrun]
    obtain ⟨_, b₁, hpart, hrest⟩ := exists_of_bind hbuild
    obtain ⟨_, b₂, hget, hrest⟩ := exists_of_bind hrest
    obtain ⟨_, b₃, hwaiting, hrest⟩ := exists_of_bind hrest
    have hb₁ : Stored b₁.collections := keeps_part g.root b _ b₁ hpart ▸ hb
    have hb₂ : Stored b₂.collections := keeps_get b₁ _ b₂ hget ▸ hb₁
    exact keeps_pure _ b₃ _ b' hrest ▸ stored_of_buildWaiting hb₂ hwaiting

end Build

/-! ## Collections as data

Collections refer to each other by numbers. They are written out in rounds, each of which needs only
what the rounds before have found; what holds itself is written with a label. -/

open Build (Stored KeysOnce keysOf)

/-- If all of several things have results, each has its own. -/
theorem forall₂_of_mapM {α β : Type} {f : α → Option β} {as : List α} {bs : List β}
    (h : as.mapM f = some bs) : List.Forall₂ (fun a b => f a = some b) as bs := by
  induction as generalizing bs with
  | nil => exact Option.some.inj h ▸ .nil
  | cons a as ih =>
    rw [List.mapM_cons] at h
    obtain ⟨b, hb, h⟩ := Option.bind_eq_some_iff.mp h
    obtain ⟨rest, hrest, h⟩ := Option.bind_eq_some_iff.mp h
    exact Option.some.inj h ▸ .cons hb (ih hrest)

/-- What follows for each pair holds of all results. -/
theorem forall_of_forall₂ {α β : Type} {R : α → β → Prop} {P : β → Prop} {as : List α}
    {bs : List β} (h : List.Forall₂ R as bs) (hP : ∀ a b, R a b → P b) : ∀ b ∈ bs, P b := by
  induction h with
  | nil => exact List.forall_mem_nil _
  | cons hab _ ih => exact List.forall_mem_cons.mpr ⟨hP _ _ hab, ih⟩

/-- Tables with the same keys have them once together. -/
theorem distinct_congr {entries entries' : Entries} (h : entries.Distinct)
    (hkeys : entries'.map (·.1) = entries.map (·.1)) : entries'.Distinct := by
  have hpairwise : (entries.map (·.1)).Pairwise fun a b => a.sameKey b = false :=
    List.pairwise_map.mpr h
  exact List.pairwise_map.mp (hkeys ▸ hpairwise)

variable {found : Array (Option Datum)} {collections : Array (Option Collection)}

/-- What has been found is sound. -/
def SoundData (found : Array (Option Datum)) : Prop :=
  ∀ (n : Nat) d, found[n]?.join = some d → d.Sound

/-- A part is a single value, or stands for a collection whose datum is there already. -/
theorem sound_of_part (hfound : SoundData found) {p : Part} {d : Datum}
    (h : p.datum? found = some d) : d.Sound := by
  cases p with
  | scalar s => exact Option.some.inj h ▸ .scalar s
  | collection n => exact hfound n d h

/-- A pair is sound if both its parts are. -/
theorem sound_of_pair (hfound : SoundData found) {pair : Part × Part} {d : Datum}
    (h : pairDatum? found pair = some d) : d.Sound := by
  obtain ⟨first, hfirst, h⟩ := Option.bind_eq_some_iff.mp h
  obtain ⟨second, hsecond, h⟩ := Option.bind_eq_some_iff.mp h
  exact Option.some.inj h ▸ .pair (sound_of_part hfound hfirst) (sound_of_part hfound hsecond)

/-- A collection is sound if its parts are and its keys stand once. -/
theorem sound_of_collection (hfound : SoundData found) {c : Collection} (hc : KeysOnce c)
    {d : Datum} (h : c.datum? found = some d) : d.Sound := by
  cases c with
  | list items =>
    obtain ⟨ds, hds, rfl⟩ := Option.map_eq_some_iff.mp h
    exact .list (forall_of_forall₂ (forall₂_of_mapM hds) fun _ _ => sound_of_part hfound)
  | pairs items =>
    obtain ⟨ds, hds, rfl⟩ := Option.map_eq_some_iff.mp h
    exact .list (forall_of_forall₂ (forall₂_of_mapM hds) fun _ _ => sound_of_pair hfound)
  | set members => exact Option.some.inj h ▸ .set members
  | table entries =>
    obtain ⟨es, hes, rfl⟩ := Option.map_eq_some_iff.mp h
    have hentries := forall₂_of_mapM hes
    refine .table (distinct_congr hc ?_) (forall_of_forall₂ hentries fun e e' he => ?_)
    · -- the keys are those that the collection was read with
      rw [keysOf, List.map_map]
      clear hc h hes
      induction hentries with
      | nil => rfl
      | cons he _ ih =>
        obtain ⟨d, -, rfl⟩ := Option.map_eq_some_iff.mp he
        exact congrArg (List.cons _) ih
    · obtain ⟨d, hd, rfl⟩ := Option.map_eq_some_iff.mp he
      exact sound_of_part hfound hd

/-- One more sound datum. -/
theorem SoundData.set (hfound : SoundData found) (n : Nat) {d : Option Datum}
    (hd : ∀ d', d = some d' → d'.Sound) : SoundData (found.setIfInBounds n d) := by
  intro i d' hd'
  rw [Array.getElem?_setIfInBounds] at hd'
  split at hd'
  · split at hd'
    · exact hd d' hd'
    · exact absurd hd' nofun
  · exact hfound i d' hd'

/-- A round through the collections adds the data of those whose parts are all there, and these are
sound. -/
theorem soundData_findMore (hstored : Stored collections) (hfound : SoundData found) :
    SoundData (findMore collections found) := by
  rw [findMore]
  induction List.range collections.size with
  | nil => exact hfound
  | cons n ns ih =>
    rw [List.foldr_cons]
    split
    · exact ih
    · refine ih.set n fun d hd => ?_
      obtain ⟨c, hc, hdatum⟩ := Option.bind_eq_some_iff.mp hd
      exact sound_of_collection ih (hstored n c hc) hdatum

/-- So do any number of rounds. -/
theorem soundData_findAll (hstored : Stored collections) (fuel : Nat)
    (hfound : SoundData found) : SoundData (findAll collections fuel found) := by
  induction fuel generalizing found with
  | zero => exact hfound
  | succ fuel ih =>
    rw [findAll]
    split
    · exact hfound
    · exact ih (soundData_findMore hstored hfound)

/-- A collection that holds itself is written out soundly. -/
theorem sound_unfold (hstored : Stored collections) (hfound : SoundData found)
    (fuel depth : Nat) (around : List Nat) (p : Part) :
    (unfold collections found fuel depth around p).Sound := by
  induction fuel generalizing depth around p with
  | zero =>
    cases p with
    | scalar s => exact .scalar s
    | collection n => exact .again false
  | succ fuel ih =>
    cases p with
    | scalar s => exact .scalar s
    | collection n =>
      rw [unfold]
      split
      · -- it was found to be free of itself, and is written out as it was found
        rename_i d hd
        exact hfound n d hd
      · exact .scalar .null
      · rename_i c hd hc
        split
        · exact .again c.isTable
        · cases c with
          | list items =>
            refine .knot nofun (.list ?_)
            exact List.forall_mem_map.mpr fun p _ => ih _ _ p
          | pairs items =>
            refine .knot nofun (.list ?_)
            exact List.forall_mem_map.mpr fun pair _ => .pair (ih _ _ _) (ih _ _ _)
          | set members => exact .knot nofun (.set members)
          | table entries =>
            refine .knot nofun (.table (distinct_congr (hstored n _ hc) ?_) ?_)
            · rw [keysOf, List.map_map, List.map_map]
              rfl
            · exact List.forall_mem_map.mpr fun e _ => ih _ _ _

/-- The datum of what was built is sound, with labels where it holds itself and without. -/
theorem sound_datum {built : Built} (h : Stored built.collections) : built.datum.Sound := by
  refine sound_unfold h (soundData_findAll h _ fun n d hd => ?_) _ _ _ _
  rw [Array.getElem?_replicate] at hd
  split at hd <;> exact absurd hd nofun

/-- What a graph writes is sound data, and so is what no graph writes. -/
theorem sound_of_graph {composed : Except Error (Option Graph)} {d : Datum}
    (h : (composed >>= fun graph => match graph with
      | none => pure Datum.null
      | some g => do return (← g.build).datum) = .ok d) : d.Sound := by
  rcases composed with e | _ | g
  · exact absurd h nofun
  · exact Except.ok.inj h ▸ .scalar .null
  · change (g.build >>= fun built => pure built.datum) = _ at h
    rcases hbuilt : g.build with e | built
    · rw [hbuilt] at h
      exact absurd h nofun
    · rw [hbuilt] at h
      exact Except.ok.inj h ▸ sound_datum (Build.stored_of_build hbuilt)

/-- **What a text writes is sound data.** -/
theorem sound_of_read {text : List Char} {isCut : Bool} {d : Datum}
    (h : Yaml.read text isCut = .ok d) : d.Sound :=
  sound_of_graph h

end CodeCatalog.Yaml
