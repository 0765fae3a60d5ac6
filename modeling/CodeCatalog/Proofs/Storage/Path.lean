/-
The text of a path that was read is its path again.

Reading drops what does not count, so a path that was read is in normal form: at most two slashes in
front, and parts that are not empty, are no single dots and hold no slash. Writing such a path and
cutting the text at its slashes gives the parts back, with empty pieces before them where slashes
stand in front. Home folders come in as paths that were read, so they keep the form.
-/
import CodeCatalog.Proofs.Text.Words
import CodeCatalog.Storage.Path

set_option autoImplicit false

namespace CodeCatalog

namespace Text

variable {separator : Char → Bool} {c : Char}

/-- Pieces that are joined by a separator are cut apart again. -/
theorem cutAt_intercalate {pieces : List (List Char)} (hne : pieces ≠ [])
    (hpieces : ∀ piece ∈ pieces, ∀ c ∈ piece, separator c = false) (hc : separator c = true) :
    cutAt separator (List.intercalate [c] pieces) = pieces := by
  induction pieces with
  | nil => exact absurd rfl hne
  | cons piece pieces ih =>
    rw [List.forall_mem_cons] at hpieces
    rcases pieces with _ | ⟨next, pieces⟩
    · rw [List.intercalate_singleton, cutAt_of_no_separator hpieces.1]
    · rw [List.intercalate_cons_cons, List.append_assoc, List.singleton_append,
        cutAt_parted hc, cutAt_of_no_separator hpieces.1, ih (List.cons_ne_nil _ _) hpieces.2]
      rfl

end Text

namespace Path

/-! ## Normal forms

A normal path has no empty parts and no single dots. Reading a path gives one, and joining two of
them does too. -/

/-- A part that counts and holds no slash. -/
def IsPart (part : String) : Prop :=
  part ≠ "" ∧ part ≠ "." ∧ '/' ∉ part.toList

/-- A path as it is read. -/
structure Normal (p : Path) : Prop where
  slashes : p.slashes ≤ 2
  parts : ∀ part ∈ p.parts, IsPart part

/-- What a text is cut into are parts of a path, none of them empty or a mere dot. -/
theorem isPart_of_mem_partsOf {text : List Char} {part : String} (h : part ∈ partsOf text) :
    IsPart part := by
  obtain ⟨hmem, hcounts⟩ := List.mem_filter.mp h
  obtain ⟨piece, hpiece, rfl⟩ := List.mem_map.mp hmem
  rw [decide_eq_true_iff] at hcounts
  refine ⟨hcounts.1, hcounts.2, fun hslash => ?_⟩
  rw [String.toList_ofList] at hslash
  have hseparator := (Text.of_mem_cutAt hpiece hslash).2
  exact absurd hseparator (by decide)

/-- **What is read is in normal form.** -/
theorem normal_ofText (s : String) : (ofText s).Normal where
  slashes := by
    rw [ofText]
    dsimp only
    split_ifs
    · exact le_refl 2
    · exact (min_le_right _ _).trans one_le_two
  parts _ h := isPart_of_mem_partsOf h

/-- A path that goes on at another one is normal if both are. -/
theorem Normal.join {p q : Path} (hp : p.Normal) (hq : q.Normal) : (p.join q).Normal := by
  rw [Path.join]
  split_ifs
  · exact hq
  · refine ⟨hp.slashes, fun part hpart => ?_⟩
    rcases List.mem_append.mp hpart with h | h
    · exact hp.parts part h
    · exact hq.parts part h

/-- A home folder in place of a tilde keeps the form. -/
theorem Normal.expandHome {homes : Homes} {p q : Path} (hp : p.Normal)
    (h : p.expandHome homes = .ok q) : q.Normal := by
  rw [Path.expandHome.eq_def] at h
  split at h
  -- only a first part that begins with a tilde is written out
  · rename_i first rest _ hparts
    split at h
    · split at h
      · split at h
        · exact absurd h nofun
        · rw [← Except.ok.inj h]
          refine (normal_ofText _).join ⟨Nat.zero_le 2, fun part hpart => ?_⟩
          exact hp.parts part (hparts ▸ List.mem_cons_of_mem first hpart)
      · exact absurd h nofun
    · rwa [← Except.ok.inj h]
  · rwa [← Except.ok.inj h]

/-! ## Reading back

The text of a normal path is read back as that path: the slashes are where the parts meet and
nowhere else. -/

/-- Empty pieces do not count. -/
theorem partsOf_slashes (k : Nat) (text : List Char) :
    partsOf (List.replicate k '/' ++ text) = partsOf text := by
  induction k with
  | zero => rfl
  | succ k ih =>
    rw [← ih, List.replicate_succ, List.cons_append, partsOf, Text.cutAt_cons,
      Text.consPiece.eq_def, if_pos (by decide)]
    rfl

/-- Parts with slashes between them are read as the parts. -/
theorem partsOf_intercalate {parts : List String} (hparts : ∀ part ∈ parts, IsPart part) :
    partsOf ("/".intercalate parts).toList = parts := by
  have hcounts : parts.filter (fun p => p ≠ "" ∧ p ≠ ".") = parts :=
    List.filter_eq_self.mpr fun part h => decide_eq_true ⟨(hparts part h).1, (hparts part h).2.1⟩
  -- the empty path is a case of its own, since nothing joined is cut into one empty piece
  rcases hne : parts with _ | ⟨first, rest⟩
  · rfl
  · have hpieces : ∀ piece ∈ parts.map String.toList, ∀ c ∈ piece, decide (c = '/') = false := by
      intro piece hpiece c hc
      obtain ⟨part, hpart, rfl⟩ := List.mem_map.mp hpiece
      exact decide_eq_false fun h => (hparts part hpart).2.2 (h ▸ hc)
    have hcut := Text.cutAt_intercalate (by simp [hne]) hpieces (c := '/') (by decide)
    rw [← hne, partsOf, String.toList_intercalate]
    have hslash : "/".toList = ['/'] := by decide
    rw [hslash, hcut, List.map_map]
    have hself : parts.map (String.ofList ∘ String.toList) = parts := by
      refine (List.map_congr_left fun part _ => ?_).trans (List.map_id parts)
      exact String.ofList_toList
    rw [hself, hcounts]

/-- **The text of an absolute path** in normal form is read as the path. -/
theorem Normal.ofText_text {p : Path} (hp : p.Normal) (habsolute : p.isAbsolute = true) :
    ofText p.text = p := by
  obtain ⟨slashes, parts⟩ := p
  have hslashes : slashes ≠ 0 := by
    rw [isAbsolute, decide_eq_true_iff] at habsolute
    exact habsolute
  -- the parts do not begin with a slash, so only those in front are counted
  have hlead : ("/".intercalate parts).toList.takeWhile (· = '/') = [] := by
    rcases parts with _ | ⟨first, rest⟩
    · rfl
    · obtain ⟨hempty, -, hslash⟩ := hp.parts first List.mem_cons_self
      obtain ⟨more, hmore⟩ :
          ∃ more, ("/".intercalate (first :: rest)).toList = first.toList ++ more := by
        rw [String.toList_intercalate, List.map_cons]
        rcases rest.map String.toList with _ | ⟨next, others⟩
        · exact ⟨[], by rw [List.intercalate_singleton, List.append_nil]⟩
        · exact ⟨_, by rw [List.intercalate_cons_cons, List.append_assoc]⟩
      rcases hchars : first.toList with _ | ⟨c, cs⟩
      · exact absurd (String.toList_eq_nil_iff.mp hchars) hempty
      · rw [hchars, List.mem_cons, not_or] at hslash
        rw [hmore, hchars, List.cons_append, List.takeWhile_cons_of_neg]
        rw [decide_eq_true_iff]
        exact Ne.symm hslash.1
  have htext : (Path.mk slashes parts).text.toList =
      List.replicate slashes '/' ++ ("/".intercalate parts).toList := by
    rw [Path.text, if_neg (by simp [hslashes]), String.toList_append, String.toList_ofList]
  rw [ofText, htext, List.takeWhile_append_of_pos (by simp), hlead, List.append_nil,
    List.length_replicate, partsOf_slashes, partsOf_intercalate hp.parts]
  have hle := hp.slashes
  congr 1
  dsimp only at hle
  split_ifs <;> omega

end Path

end CodeCatalog
