/-
The environment variables as a source of settings.

Variables for single settings make a source by themselves: what it has of a setting is the value of
the last variable with the setting's name, in whatever case it is written (`settingIn_variables`).
Names are compared twice, as whole names and again as names of settings. The second time nothing
changes, since a name in lower case is no setting's name in other letters (`Text.lower_of_plain`).
Only the value of a setting that is a list may be refused.
-/
import CodeCatalog.Proofs.Settings.Source
import CodeCatalog.Proofs.Text.Case

set_option autoImplicit false

namespace CodeCatalog.Settings

open Datum

variable {section_ name : String} {vars : List (String × String)}

/-! ## Variables in lower case

Names are lowered first, and of two that are the same then the last one stays. So a look-up finds
the last variable with a name in any case. -/

/-- The value of the last variable with a name, whose case does not count. -/
def lastNamed (name : String) (vars : List (String × String)) : Option String :=
  (vars.reverse.find? fun v => Text.lower v.1 = name).map (·.2)

/-- No name stands twice. -/
def UniqueNames (vars : List (String × String)) : Prop :=
  vars.Pairwise fun a b => a.1 ≠ b.1

/-- A name is looked up in the first variable, and behind it if that has another name. -/
theorem lookup_cons {α : Type} (e : String × α) (l : List (String × α)) (name : String) :
    (e :: l).lookup name = if e.1 = name then some e.2 else l.lookup name := by
  obtain ⟨key, value⟩ := e
  rw [List.lookup_cons]
  split
  · rename_i h
    rw [if_pos (beq_iff_eq.mp h).symm]
  · rename_i h
    rw [if_neg fun heq => absurd (heq ▸ h) (by simp)]

/-- A value that is put under a name is found there, and nothing else changes. -/
theorem lookup_putNamed {α : Type} (name : String) (value : α) (l : List (String × α))
    (n : String) :
    (putNamed name value l).lookup n = if name = n then some value else l.lookup n := by
  induction l with
  | nil => exact lookup_cons (name, value) [] n
  | cons e l ih =>
    obtain ⟨n', v'⟩ := e
    rw [putNamed]
    -- a name that is there is given the new value, and any other goes to the end
    split
    · rename_i hsame
      rw [lookup_cons, lookup_cons, hsame]
      split <;> rfl
    · rename_i hother
      rw [lookup_cons, lookup_cons, ih]
      split
      · rename_i hn
        rw [if_neg fun h => hother (hn.trans h.symm)]
      · rfl

/-- A list has nothing new in it after a value was put but the value under its name. -/
theorem mem_putNamed {value : String} {e : String × String} (h : e ∈ putNamed name value vars) :
    e.1 = name ∨ e ∈ vars := by
  induction vars with
  | nil => exact .inl (List.mem_singleton.mp h ▸ rfl)
  | cons e' vars ih =>
    rw [putNamed] at h
    -- as for `lookup_putNamed`, the name is there already or not
    split at h
    · rename_i hsame
      rcases List.mem_cons.mp h with rfl | he
      · exact .inl hsame
      · exact .inr (List.mem_cons_of_mem _ he)
    · rcases List.mem_cons.mp h with rfl | he
      · exact .inr List.mem_cons_self
      · exact (ih he).imp_right (List.mem_cons_of_mem _)

/-- A value takes the place of an older one with its name, so no name stands twice. -/
theorem UniqueNames.putNamed (h : UniqueNames vars) (name value : String) :
    UniqueNames (putNamed name value vars) := by
  induction vars with
  | nil => exact List.pairwise_singleton _ _
  | cons e vars ih =>
    obtain ⟨hfirst, hrest⟩ := List.pairwise_cons.mp h
    rw [Settings.putNamed]
    split
    · exact List.pairwise_cons.mpr ⟨hfirst, hrest⟩
    · rename_i hother
      refine List.pairwise_cons.mpr ⟨fun e' he' => ?_, ih hrest⟩
      -- the names behind this one are old, or the new one, which differs from it
      rcases mem_putNamed he' with hname | he'
      · exact hname ▸ hother
      · exact hfirst e' he'

/-- The last variable is put last, over one that differs from it only in case. -/
theorem lowered_concat (vars : List (String × String)) (v : String × String) :
    lowered (vars ++ [v]) = putNamed (Text.lower v.1) v.2 (lowered vars) := by
  rw [lowered, List.foldl_append]
  rfl

/-- Among the variables in lower case a name has the value of its last variable. -/
theorem lookup_lowered (vars : List (String × String)) (name : String) :
    (lowered vars).lookup name = lastNamed name vars := by
  induction vars using List.reverseRecOn with
  | nil => rfl
  | append_singleton vars v ih =>
    rw [lowered_concat, lookup_putNamed, ih, lastNamed, lastNamed, List.reverse_append,
      List.reverse_singleton, List.singleton_append, List.find?_cons]
    split <;> simp [*]

/-- In lower case each name stands once. -/
theorem uniqueNames_lowered (vars : List (String × String)) : UniqueNames (lowered vars) := by
  induction vars using List.reverseRecOn with
  | nil => exact List.Pairwise.nil
  | append_singleton vars v ih => exact lowered_concat vars v ▸ ih.putNamed _ _

/-- What is there in lower case was there in some case. -/
theorem exists_of_mem_lowered {e : String × String} (he : e ∈ lowered vars) :
    ∃ v ∈ vars, e.1 = Text.lower v.1 := by
  induction vars using List.reverseRecOn with
  | nil => exact absurd he List.not_mem_nil
  | append_singleton vars v ih =>
    rw [lowered_concat] at he
    rcases mem_putNamed he with hname | he
    · exact ⟨v, List.mem_concat_self, hname⟩
    · obtain ⟨v', hv', hname⟩ := ih he
      exact ⟨v', List.mem_append_left _ hv', hname⟩

/-- Where names stand once, each variable is found under its own. -/
theorem UniqueNames.lookup_of_mem (h : UniqueNames vars) {e : String × String} (he : e ∈ vars) :
    vars.lookup e.1 = some e.2 := by
  induction vars with
  | nil => exact absurd he List.not_mem_nil
  | cons e' vars ih =>
    obtain ⟨hfirst, hrest⟩ := List.pairwise_cons.mp h
    rw [lookup_cons]
    rcases List.mem_cons.mp he with rfl | he
    · exact if_pos rfl
    · rw [if_neg (hfirst e he), ih hrest he]

/-- Behind a variable its name is not found again. -/
theorem UniqueNames.lookup_rest {e : String × String} (h : UniqueNames (e :: vars)) :
    vars.lookup e.1 = none := by
  rw [List.lookup_eq_none_iff]
  intro e' he'
  exact bne_iff_ne.mpr ((List.pairwise_cons.mp h).1 e' he')

/-! ## Names of settings

A name that begins with that of a section leads into the section. With variables for single settings
only, what is left of the name is the name of a setting. -/

/-- What the names of the variables of a section begin with. -/
def sectionLead (section_ : String) : List Char :=
  variableLead ++ section_.toList ++ ['_', '_']

/-- The name of the variable for a setting, in lower case. -/
def variableName (section_ name : String) : String :=
  String.ofList (sectionLead section_ ++ name.toList)

/-- Variables for single settings: none is for a whole section, and none reaches into a setting. -/
structure OnlySettings (vars : List (String × String)) : Prop where
  whole : ∀ v ∈ vars, ∀ section_ ∈ sectionNames,
    Text.lower v.1 ≠ String.ofList (variableLead ++ section_.toList)
  single : ∀ v ∈ vars, ∀ section_ ∈ sectionNames, ∀ rest,
    (Text.lower v.1).toList = sectionLead section_ ++ rest → ¬ ['_', '_'] <:+: rest

/-- What is behind a beginning is the rest of a text that begins so. -/
theorem behind?_eq_some {lead text rest : List Char} :
    behind? lead text = some rest ↔ text = lead ++ rest := by
  rw [behind?, Option.ite_none_right_eq_some, List.isPrefixOf_iff_prefix]
  constructor
  · rintro ⟨⟨rest', rfl⟩, h⟩
    rw [← Option.some.inj h, List.drop_left]
  · rintro rfl
    exact ⟨List.prefix_append _ _, by rw [List.drop_left]⟩

instance (vars : List (String × String)) : Decidable (OnlySettings vars) :=
  decidable_of_iff ((∀ v ∈ vars, ∀ section_ ∈ sectionNames,
      Text.lower v.1 ≠ String.ofList (variableLead ++ section_.toList)) ∧
    ∀ v ∈ vars, ∀ section_ ∈ sectionNames,
      ∀ rest ∈ behind? (sectionLead section_) (Text.lower v.1).toList, ¬ ['_', '_'] <:+: rest)
    ⟨fun ⟨hwhole, hsingle⟩ => ⟨hwhole, fun v hv section_ hsection rest hrest =>
        hsingle v hv section_ hsection rest (behind?_eq_some.mpr hrest)⟩,
      fun h => ⟨h.whole, fun v hv section_ hsection rest hrest =>
        h.single v hv section_ hsection rest (behind?_eq_some.mp hrest)⟩⟩

/-- A name without double low lines is a single piece. -/
theorem splitName_of_single {rest : List Char} (piece : List Char) (h : ¬ ['_', '_'] <:+: rest) :
    splitName piece rest = [String.ofList (piece.reverse ++ rest)] := by
  fun_induction splitName piece rest with
  | case1 piece => rw [List.append_nil]
  | case2 piece c => rw [List.reverse_cons]
  | case3 piece a b rest hline _ =>
    obtain ⟨rfl, rfl⟩ := hline
    exact absurd (List.infix_append [] ['_', '_'] rest) h
  | case4 piece a b rest _ ih =>
    rw [ih fun hinfix => h (List.infix_cons hinfix), List.reverse_cons, List.append_assoc,
      List.singleton_append]

/-- The names and values of the variables of a section. -/
def namesInto (section_ : String) (vars : List (String × String)) : List (String × String) :=
  vars.filterMap fun v =>
    (behind? (sectionLead section_) v.1.toList).map fun rest => (String.ofList rest, v.2)

/-- The names that lead into a section are those of variables that begin with the section's name. -/
theorem mem_namesInto {e : String × String} :
    e ∈ namesInto section_ vars ↔ (variableName section_ e.1, e.2) ∈ vars := by
  rw [namesInto, List.mem_filterMap]
  constructor
  · rintro ⟨⟨n, value⟩, hv, h⟩
    obtain ⟨rest, hrest, rfl⟩ := Option.map_eq_some_iff.mp h
    rw [variableName, String.toList_ofList, ← behind?_eq_some.mp hrest, String.ofList_toList]
    exact hv
  · intro he
    refine ⟨_, he, Option.map_eq_some_iff.mpr ⟨e.1.toList, behind?_eq_some.mpr ?_, ?_⟩⟩
    · rw [variableName, String.toList_ofList]
    · rw [String.ofList_toList]

/-- Different names of variables are different names in the section. -/
theorem UniqueNames.namesInto (h : UniqueNames vars) (section_ : String) :
    UniqueNames (namesInto section_ vars) := by
  refine List.Pairwise.filterMap _ (fun v v' hne e he e' he' hname => ?_) h
  obtain ⟨rest, hrest, rfl⟩ := Option.map_eq_some_iff.mp he
  obtain ⟨rest', hrest', rfl⟩ := Option.map_eq_some_iff.mp he'
  refine hne (String.toList_inj.mp ?_)
  rw [behind?_eq_some.mp hrest, behind?_eq_some.mp hrest', String.ofList_injective hname]

/-- The variable of a setting is found under its name. -/
theorem lookup_namesInto (h : UniqueNames vars) (section_ name : String) :
    (namesInto section_ vars).lookup name = vars.lookup (variableName section_ name) := by
  rcases hfound : vars.lookup (variableName section_ name) with _ | value
  · rw [List.lookup_eq_none_iff] at hfound ⊢
    intro e he
    refine bne_iff_ne.mpr fun hname => ?_
    exact bne_iff_ne.mp (hfound _ (mem_namesInto.mp he)) (by rw [hname])
  · obtain ⟨v, hv, hvalue, hname⟩ : ∃ v ∈ vars, v.2 = value ∧ v.1 = variableName section_ name := by
      -- the variable is found under its full name, and no other one leads to the same setting
      obtain ⟨before, after, heq, -⟩ := List.lookup_eq_some_iff.mp hfound
      exact ⟨(variableName section_ name, value), heq ▸ by simp, rfl, rfl⟩
    have hmem : (name, value) ∈ namesInto section_ vars := by
      rw [mem_namesInto, ← hvalue, ← hname]
      exact hv
    exact (h.namesInto section_).lookup_of_mem hmem

/-- For single settings each way is a name. -/
theorem waysInto_eq (h : ∀ v ∈ vars, ∀ rest,
      v.1.toList = sectionLead section_ ++ rest → ¬ ['_', '_'] <:+: rest) :
    waysInto section_ vars = (namesInto section_ vars).map fun e => ([e.1], e.2) := by
  rw [waysInto, namesInto, List.map_filterMap]
  refine List.filterMap_congr fun v hv => ?_
  show (behind? (sectionLead section_) v.1.toList).map (fun rest => (splitName [] rest, v.2)) =
    ((behind? (sectionLead section_) v.1.toList).map fun rest => (String.ofList rest, v.2)).map
      fun e => ([e.1], e.2)
  rcases hrest : behind? (sectionLead section_) v.1.toList with _ | rest
  · rfl
  · rw [Option.map_some, splitName_of_single [] (h v hv rest (behind?_eq_some.mp hrest))]
    rfl

/-! ## Values

A value is taken as a text, but for a setting that is a list, where it is read as JSON. So putting
the values together can fail for these alone. -/

/-- A section with the value of a variable put under its name. -/
def putVariable (section_ : String) (entries : Entries) (v : String × String) :
    Except VariableError Entries :=
  (settingValue section_ [v.1] v.2).map fun d => entries.put (.text v.1) d

/-- Where each way is a single name, a section is made by putting one setting after the other. -/
theorem fromWays_eq (section_ : String) (names : List (String × String)) :
    fromWays section_ (names.map fun e => ([e.1], e.2)) =
      names.foldlM (putVariable section_) [] := by
  rw [fromWays, List.foldlM_map]
  rfl

variable {names : List (String × String)} {entries es : Entries}

/-- Putting several settings is putting the first one and going on with the others; a value that is
refused is the end. -/
theorem foldlM_putVariable_cons {e : String × String} :
    (e :: names).foldlM (putVariable section_) entries = .ok es ↔
      ∃ d, settingValue section_ [e.1] e.2 = .ok d ∧
        names.foldlM (putVariable section_) (entries.put (.text e.1) d) = .ok es := by
  rw [List.foldlM_cons, putVariable]
  rcases settingValue section_ [e.1] e.2 with f | d
  · exact ⟨nofun, fun ⟨_, h, _⟩ => absurd h nofun⟩
  · exact ⟨fun h => ⟨d, rfl, h⟩, fun ⟨_, hd, h⟩ => Except.ok.inj hd ▸ h⟩

/-- Variables make a section exactly if each of their values can be read. -/
theorem exists_foldlM_putVariable (entries : Entries) :
    (∃ es, names.foldlM (putVariable section_) entries = .ok es) ↔
      ∀ e ∈ names, ∃ d, settingValue section_ [e.1] e.2 = .ok d := by
  induction names generalizing entries with
  | nil => exact ⟨fun _ _ h => absurd h List.not_mem_nil, fun _ => ⟨entries, rfl⟩⟩
  | cons e names ih =>
    rw [List.forall_mem_cons]
    -- each variable is put in its turn, whatever was put before
    constructor
    · rintro ⟨es, h⟩
      obtain ⟨d, hd, h⟩ := foldlM_putVariable_cons.mp h
      exact ⟨⟨d, hd⟩, (ih _).mp ⟨es, h⟩⟩
    · rintro ⟨⟨d, hd⟩, hrest⟩
      obtain ⟨es, h⟩ := (ih _).mpr hrest
      exact ⟨es, foldlM_putVariable_cons.mpr ⟨d, hd, h⟩⟩

/-- What a section has under a name is what the variable of that name writes. -/
theorem find?_of_foldlM (hnames : UniqueNames names)
    (h : names.foldlM (putVariable section_) entries = .ok es) (n : String) :
    es.find? n = match names.lookup n with
      | some value => (settingValue section_ [n] value).toOption
      | none => entries.find? n := by
  induction names generalizing entries with
  | nil => rw [← Except.ok.inj h]; rfl
  | cons e names ih =>
    obtain ⟨d, hd, h⟩ := foldlM_putVariable_cons.mp h
    rw [ih (List.pairwise_cons.mp hnames).2 h, lookup_cons]
    -- the name of this variable does not come again, so what it puts stays
    by_cases hname : e.1 = n
    · rw [if_pos hname, ← hname, hnames.lookup_rest]
      show (entries.put (.text e.1) d).find? e.1 = (settingValue section_ [e.1] e.2).toOption
      rw [hd, Entries.find?, Entries.get?_put, if_pos (Scalar.sameKey_self _)]
      rfl
    · rw [if_neg hname, Entries.find?, Entries.get?_put, if_neg, Entries.find?]
      exact fun hsame => hname (Scalar.text.inj (Scalar.sameKey_text.mp hsame))

/-- The keys of a section are those that were there and the names of its variables. -/
theorem keys_of_foldlM {P : Scalar → Prop} (hentries : ∀ e ∈ entries, P e.1)
    (hnames : ∀ e ∈ names, P (.text e.1))
    (h : names.foldlM (putVariable section_) entries = .ok es) : ∀ e ∈ es, P e.1 := by
  induction names generalizing entries with
  | nil => exact Except.ok.inj h ▸ hentries
  | cons e names ih =>
    obtain ⟨d, -, h⟩ := foldlM_putVariable_cons.mp h
    obtain ⟨hfirst, hrest⟩ := List.forall_mem_cons.mp hnames
    refine ih (fun e' he' => ?_) hrest h
    -- an entry is old, or was put by this variable
    rcases Entries.mem_put he' with he' | ⟨-, hkey | ⟨e'', he'', hkey⟩⟩
    · exact hentries e' he'
    · exact hkey ▸ hfirst
    · exact hkey ▸ hentries e'' he''

/-- A value that is read as JSON has no labels. -/
theorem tied_ofJson (v : Json.Value) : (Datum.ofJson v).Tied := by
  cases v with
  | list | object => rw [Datum.ofJson]; exact nofun
  | _ => rw [Datum.ofJson]; exact tied_scalar _

/-- The value of a variable has no labels, whether it is read as JSON or taken as a text. -/
theorem tied_of_settingValue {way : List String} {value : String} {d : Datum}
    (h : settingValue section_ way value = .ok d) : d.Tied := by
  rw [settingValue] at h
  split at h
  · rw [jsonDatum] at h
    split at h
    · exact Except.ok.inj h ▸ tied_ofJson _
    · exact absurd h nofun
    · exact absurd h nofun
  · exact Except.ok.inj h ▸ tied_scalar _

theorem isSection_nil : IsSection [] :=
  ⟨List.Pairwise.nil, List.forall_mem_nil _⟩

/-- A section that is made of variables is one: no setting stands in it twice. -/
theorem isSection_of_foldlM (hentries : IsSection entries)
    (h : names.foldlM (putVariable section_) entries = .ok es) : IsSection es := by
  induction names generalizing entries with
  | nil => exact Except.ok.inj h ▸ hentries
  | cons e names ih =>
    obtain ⟨d, hd, h⟩ := foldlM_putVariable_cons.mp h
    refine ih ⟨hentries.keys.put _ _, fun e' he' => ?_⟩ h
    rcases Entries.mem_put he' with he' | ⟨hvalue, -⟩
    · exact hentries.values e' he'
    · exact hvalue ▸ tied_of_settingValue hd

/-! ## Sections

A section of the variables has for each setting the last variable with its name. Names of settings
are ASCII, so their case is that of ASCII letters. -/

/-- The settings have ASCII letters for names, so that case is simple for them. -/
theorem isPlain_settingNames : ∀ section_ ∈ sectionNames, ∀ name ∈ settingNames section_,
    ∀ c ∈ name.toList, Text.IsPlain c := by
  have hall : ∀ section_ ∈ sectionNames, ∀ name ∈ settingNames section_,
      name.toList.all (Text.IsPlain ·) = true := by
    decide
  intro section_ hsection name hname c hc
  exact of_decide_eq_true (List.all_eq_true.mp (hall section_ hsection name hname) c hc)

/-- A name without plain capitals that is a setting's name in other letters is that name. -/
theorem eq_of_lower_eq {n : String} (hn : ∀ c ∈ n.toList, ¬ Text.IsPlainCapital c.toNat)
    (hsection : section_ ∈ sectionNames) (hname : Text.lower n ∈ settingNames section_) :
    Text.lower n = n :=
  Text.lower_of_plain hn (isPlain_settingNames section_ hsection _ hname)

/-- A key that is not there yet is put at the end. -/
theorem put_of_not_has {key : Scalar} {v : Datum} (h : entries.has key = false) :
    entries.put key v = entries ++ [(key, v)] := by
  induction entries with
  | nil => rfl
  | cons e entries ih =>
    obtain ⟨hfirst, hrest⟩ := Bool.or_eq_false_iff.mp h
    rw [Entries.put, if_neg (Bool.eq_false_iff.mp hfirst), ih hrest]
    rfl

/-- A table put together from its own entries is what it was. -/
theorem foldl_put (done : Entries) (h : Entries.Distinct (done ++ entries)) :
    entries.foldl (fun es e => Entries.put es e.1 e.2) done = done ++ entries := by
  induction entries generalizing done with
  | nil => exact (List.append_nil done).symm
  | cons e entries ih =>
    -- the key is new to what is done, so it goes to the end
    have hnew : Entries.has done e.1 = false := by
      rw [Entries.has, List.any_eq_false]
      intro e' he'
      exact Bool.eq_false_iff.mp
        ((List.pairwise_append.mp h).2.2 e' he' e List.mem_cons_self)
    rw [List.foldl_cons, put_of_not_has hnew, ih _ (by rwa [List.append_assoc]),
      List.append_assoc]
    rfl

/-- Names in lower case are written as the settings are. -/
theorem withSettingNames_eq (hsection : section_ ∈ sectionNames) (hkeys : entries.Distinct)
    (hlow : ∀ e ∈ entries, ∃ n : String, e.1 = .text n ∧
      ∀ c ∈ n.toList, ¬ Text.IsPlainCapital c.toNat) :
    withSettingNames section_ entries = entries := by
  rw [withSettingNames]
  refine Eq.trans (List.foldl_ext _ _ _ fun es e he => ?_) (foldl_put [] hkeys)
  obtain ⟨n, hkey, hn⟩ := hlow e he
  obtain ⟨key, v⟩ := e
  obtain rfl : key = .text n := hkey
  show es.put (.text (((settingNames section_).find? (· = Text.lower n)).getD n)) v =
    es.put (.text n) v
  -- a key in lower case is its own lowering, so the setting it is matched with has its name
  cases hfound : (settingNames section_).find? (· = Text.lower n) with
  | none => rfl
  | some name =>
    have hsame := List.find?_some hfound
    obtain rfl : name = Text.lower n := of_decide_eq_true hsame
    rw [Option.getD_some, eq_of_lower_eq hn hsection (List.mem_of_find?_eq_some hfound)]

/-- What the variables for single settings have of a setting. -/
def inVariables (section_ name : String) (vars : List (String × String)) : Option Datum :=
  (lastNamed (variableName section_ name) vars).bind fun value =>
    (settingValue section_ [name] value).toOption

/-- The value of the setting that is a list can be read, if there is one. -/
def Decodes (vars : List (String × String)) : Prop :=
  ∀ value, lastNamed (variableName "logging" "outputs") vars = some value →
    ∃ d, settingValue "logging" ["outputs"] value = .ok d

instance (vars : List (String × String)) : Decidable (Decodes vars) :=
  decidable_of_iff (∀ value ∈ lastNamed (variableName "logging" "outputs") vars,
      (settingValue "logging" ["outputs"] value).toOption.isSome = true) <| by
    refine forall₂_congr fun value _ => ?_
    cases settingValue "logging" ["outputs"] value with
    | error e => exact iff_of_false nofun nofun
    | ok d => exact iff_of_true rfl ⟨d, rfl⟩

/-- The variables of a section, in lower case. -/
def variablesOf (section_ : String) (vars : List (String × String)) : List (String × String) :=
  namesInto section_ (lowered vars)

theorem lookup_variablesOf (section_ name : String) (vars : List (String × String)) :
    (variablesOf section_ vars).lookup name = lastNamed (variableName section_ name) vars := by
  rw [variablesOf, lookup_namesInto (uniqueNames_lowered vars), lookup_lowered]

/-- The names that lead into a section have no capital letters. -/
theorem low_of_mem_variablesOf {e : String × String} (he : e ∈ variablesOf section_ vars) :
    ∀ c ∈ e.1.toList, ¬ Text.IsPlainCapital c.toNat := by
  intro c hc
  obtain ⟨v, -, hname⟩ := exists_of_mem_lowered (mem_namesInto.mp he)
  refine Text.not_plainCapital_of_mem_lower (s := v.1) ?_
  rw [← hname, variableName, String.toList_ofList]
  exact List.mem_append_right _ hc

/-- Variables for single settings lead into a section by ways of one name. -/
theorem waysInto_lowered (honly : OnlySettings vars) (hsection : section_ ∈ sectionNames) :
    waysInto section_ (lowered vars) = (variablesOf section_ vars).map fun e => ([e.1], e.2) := by
  refine waysInto_eq fun e he rest hrest => ?_
  obtain ⟨v, hv, hname⟩ := exists_of_mem_lowered he
  exact honly.single v hv section_ hsection rest (hname ▸ hrest)

/-- None of them is for a section as a whole. -/
theorem lookup_whole (honly : OnlySettings vars) (hsection : section_ ∈ sectionNames) :
    (lowered vars).lookup (String.ofList (variableLead ++ section_.toList)) = none := by
  rw [List.lookup_eq_none_iff]
  intro e he
  obtain ⟨v, hv, hname⟩ := exists_of_mem_lowered he
  exact bne_iff_ne.mpr fun h => honly.whole v hv section_ hsection (hname ▸ h.symm)

/-- Variables for single settings make a section of what they write, unless there are none. -/
theorem sectionOf_lowered (honly : OnlySettings vars) (hsection : section_ ∈ sectionNames) :
    sectionOf (lowered vars) section_ =
      ((variablesOf section_ vars).foldlM (putVariable section_) []).map fun es =>
        if es.isEmpty then none else some (.table es) := by
  rw [sectionOf, lookup_whole honly hsection, waysInto_lowered honly hsection, fromWays_eq]
  rcases h : (variablesOf section_ vars).foldlM (putVariable section_) [] with f | es
  · rfl
  -- the names of settings are in lower case, so giving them back their spelling changes nothing
  · have hkeys := (isSection_of_foldlM isSection_nil h).keys
    have hlow := keys_of_foldlM (P := fun key => ∃ n : String, key = .text n ∧
      ∀ c ∈ n.toList, ¬ Text.IsPlainCapital c.toNat) (List.forall_mem_nil _)
      (fun e he => ⟨e.1, rfl, low_of_mem_variablesOf he⟩) h
    show (Except.ok (if es.isEmpty then none else some (.table (withSettingNames section_ es))) :
      Except VariableError (Option Datum)) = _
    rw [withSettingNames_eq hsection hkeys hlow]
    rfl

/-- What a section of the variables is. -/
theorem section_of_variables (honly : OnlySettings vars) (hsection : section_ ∈ sectionNames)
    {found : Option Datum} (h : sectionOf (lowered vars) section_ = .ok found) :
    (∀ d, found = some d → ∃ es, d.bare = .table es ∧ IsSection es ∧
      ∀ name, Entries.find? es name = inVariables section_ name vars) ∧
    (found = none → ∀ name, inVariables section_ name vars = none) := by
  rw [sectionOf_lowered honly hsection] at h
  rcases hfold : (variablesOf section_ vars).foldlM (putVariable section_) [] with f | es
  · rw [hfold] at h
    exact absurd h nofun
  · -- names differ in more than case, so no variable is put over another one
    have hunique := (uniqueNames_lowered vars).namesInto section_
    have hfind : ∀ name, es.find? name = inVariables section_ name vars := by
      intro name
      rw [find?_of_foldlM hunique hfold, ← variablesOf, lookup_variablesOf, inVariables]
      cases lastNamed (variableName section_ name) vars <;> rfl
    rw [hfold] at h
    have hfound : (if es.isEmpty then none else some (Datum.table es)) = found := Except.ok.inj h
    split at hfound
    · rename_i hempty
      obtain rfl : es = [] := List.isEmpty_iff.mp hempty
      rw [← hfound]
      exact ⟨nofun, fun _ name => (hfind name).symm⟩
    · rw [← hfound]
      refine ⟨fun d hd => ?_, nofun⟩
      rw [← Option.some.inj hd]
      exact ⟨es, rfl, isSection_of_foldlM isSection_nil hfold, hfind⟩

/-- Every section can be read if the value of the setting that is a list can. -/
theorem exists_sectionOf_iff (honly : OnlySettings vars) :
    (∀ section_ ∈ sectionNames, ∃ found, sectionOf (lowered vars) section_ = .ok found) ↔
      Decodes vars := by
  have hsection : ∀ section_ ∈ sectionNames,
      ((∃ found, sectionOf (lowered vars) section_ = .ok found) ↔
        ∀ e ∈ variablesOf section_ vars, ∃ d, settingValue section_ [e.1] e.2 = .ok d) := by
    intro section_ hsection
    rw [sectionOf_lowered honly hsection, ← exists_foldlM_putVariable []]
    rcases (variablesOf section_ vars).foldlM (putVariable section_) [] with f | es
    · exact ⟨fun ⟨_, h⟩ => absurd h nofun, fun ⟨_, h⟩ => absurd h nofun⟩
    · exact ⟨fun _ => ⟨es, rfl⟩, fun _ => ⟨_, rfl⟩⟩
  have hunique := (uniqueNames_lowered vars).namesInto "logging"
  constructor
  · intro h value hvalue
    rw [← lookup_variablesOf] at hvalue
    obtain ⟨before, after, heq, -⟩ := List.lookup_eq_some_iff.mp hvalue
    exact (hsection "logging" (by decide)).mp (h "logging" (by decide)) ("outputs", value)
      (heq ▸ by simp)
  · intro h section_ hmem
    refine (hsection section_ hmem).mpr fun e he => ?_
    rw [settingValue]
    split
    · -- only the list of outputs is read as JSON
      rename_i hlist
      obtain ⟨rfl, hname⟩ : section_ = "logging" ∧ Text.lower e.1 = "outputs" := by
        rw [Bool.and_eq_true, isListSetting, Bool.and_eq_true, decide_eq_true_iff,
          decide_eq_true_iff] at hlist
        exact ⟨hlist.1.1, List.singleton_inj.mp hlist.1.2⟩
      have houtputs : e.1 = "outputs" := by
        rw [← eq_of_lower_eq (low_of_mem_variablesOf he) hmem (hname ▸ by decide), hname]
      have hvalue : lastNamed (variableName "logging" "outputs") vars = some e.2 := by
        rw [← lookup_variablesOf, ← houtputs]
        exact hunique.lookup_of_mem he
      obtain ⟨d, hd⟩ := h e.2 hvalue
      rw [settingValue] at hd
      split at hd
      · exact ⟨d, hd⟩
      · rename_i hempty
        rw [Bool.and_eq_true, not_and] at hempty
        exact absurd (Bool.and_eq_true _ _ ▸ hlist).2 (hempty (by decide))
    · exact ⟨_, rfl⟩

/-! ## The source

The three sections are put together one after the other. None of them looks at another one, so the
source is told section by section. -/

/-- The sections so far with one more, if the variables have it. -/
def putSection (vars : List (String × String)) (entries : Entries) (name : String) :
    Except (String × VariableError) Entries :=
  match sectionOf vars name with
  | .error e => .error (name, e)
  | .ok none => .ok entries
  | .ok (some d) => .ok (entries.put (.text name) d)

theorem fromVariables_eq (vars : List (String × String)) :
    fromVariables vars = sectionNames.foldlM (putSection (lowered vars)) [] := rfl

variable {sections : List String}

/-- Making several sections is making the first one, if there are variables for it, and going on
with the others. -/
theorem foldlM_putSection_cons : (name :: sections).foldlM (putSection vars) entries = .ok es ↔
    ∃ found, sectionOf vars name = .ok found ∧
      sections.foldlM (putSection vars) (found.elim entries (entries.put (.text name) ·)) =
        .ok es := by
  rw [List.foldlM_cons, putSection]
  rcases sectionOf vars name with f | _ | d
  · exact ⟨nofun, fun ⟨_, h, _⟩ => absurd h nofun⟩
  · refine ⟨fun h => ⟨none, rfl, h⟩, fun ⟨_, hfound, h⟩ => ?_⟩
    obtain rfl := Except.ok.inj hfound
    exact h
  · refine ⟨fun h => ⟨some d, rfl, h⟩, fun ⟨_, hfound, h⟩ => ?_⟩
    obtain rfl := Except.ok.inj hfound
    exact h

/-- Sections can be made just if each of them can; none is made from another. -/
theorem exists_foldlM_putSection :
    (∃ es, sections.foldlM (putSection vars) entries = .ok es) ↔
      ∀ name ∈ sections, ∃ found, sectionOf vars name = .ok found := by
  induction sections generalizing entries with
  | nil => exact ⟨fun _ _ h => absurd h List.not_mem_nil, fun _ => ⟨entries, rfl⟩⟩
  | cons name sections ih =>
    rw [List.forall_mem_cons]
    -- a section that is not found puts nothing and refuses nothing
    constructor
    · rintro ⟨es, h⟩
      obtain ⟨found, hfound, h⟩ := foldlM_putSection_cons.mp h
      exact ⟨⟨found, hfound⟩, ih.mp ⟨es, h⟩⟩
    · rintro ⟨⟨found, hfound⟩, hrest⟩
      obtain ⟨es, h⟩ := ih.mpr hrest
      exact ⟨es, foldlM_putSection_cons.mpr ⟨found, hfound, h⟩⟩

/-- Putting one section leaves the others as they are. -/
theorem find?_elim_put {found : Option Datum} {n : String} (hname : name ≠ n) :
    Entries.find? (found.elim entries (entries.put (.text name) ·)) n = entries.find? n := by
  cases found with
  | none => rfl
  | some d =>
    rw [Option.elim_some, Entries.find?, Entries.get?_put, if_neg, Entries.find?]
    exact fun hsame => hname (Scalar.text.inj (Scalar.sameKey_text.mp hsame))

/-- What is under other names stays. -/
theorem find?_of_not_mem {n : String} (hn : n ∉ sections)
    (h : sections.foldlM (putSection vars) entries = .ok es) : es.find? n = entries.find? n := by
  induction sections generalizing entries with
  | nil => rw [← Except.ok.inj h]
  | cons name sections ih =>
    obtain ⟨found, -, h⟩ := foldlM_putSection_cons.mp h
    rw [ih (fun hmem => hn (List.mem_cons_of_mem _ hmem)) h,
      find?_elim_put fun hname => hn (List.mem_cons.mpr (.inl hname.symm))]

/-- Each section is found under its name. -/
theorem sectionOf_of_mem {n : String} (hsections : sections.Nodup) (hn : n ∈ sections)
    (hfresh : entries.find? n = none)
    (h : sections.foldlM (putSection vars) entries = .ok es) :
    sectionOf vars n = .ok (es.find? n) := by
  induction sections generalizing entries with
  | nil => exact absurd hn List.not_mem_nil
  | cons name sections ih =>
    obtain ⟨hnew, hrest⟩ := List.nodup_cons.mp hsections
    obtain ⟨found, hfound, h⟩ := foldlM_putSection_cons.mp h
    -- the section is put in its turn, and no later section has its name
    by_cases hname : name = n
    · subst hname
      rw [find?_of_not_mem hnew h, hfound]
      cases found with
      | none => exact congrArg Except.ok hfresh.symm
      | some d =>
        rw [Option.elim_some, Entries.find?, Entries.get?_put, if_pos (Scalar.sameKey_self _)]
    · refine ih hrest ((List.mem_cons.mp hn).resolve_left (Ne.symm hname)) ?_ h
      rw [find?_elim_put hname, hfresh]

/-- The keys are those that were there and the names of the sections. -/
theorem keys_of_foldlM_putSection (hkeys : entries.Distinct)
    (h : sections.foldlM (putSection vars) entries = .ok es) :
    es.Distinct ∧ ∀ key, es.has key = true →
      entries.has key = true ∨ ∃ name ∈ sections, key = .text name := by
  induction sections generalizing entries with
  | nil => exact Except.ok.inj h ▸ ⟨hkeys, fun _ => .inl⟩
  | cons name sections ih =>
    obtain ⟨found, -, h⟩ := foldlM_putSection_cons.mp h
    cases found with
    | none =>
      obtain ⟨hdistinct, hhas⟩ := ih hkeys h
      refine ⟨hdistinct, fun key hkey => (hhas key hkey).imp_right ?_⟩
      exact fun ⟨n, hn, heq⟩ => ⟨n, List.mem_cons_of_mem _ hn, heq⟩
    | some d =>
      obtain ⟨hdistinct, hhas⟩ := ih (hkeys.put (.text name) d) h
      refine ⟨hdistinct, fun key hkey => ?_⟩
      -- a key is old, or it is the name that was put first, or one of the others
      rcases hhas key hkey with hold | ⟨n, hn, heq⟩
      · rw [Entries.has_eq_isSome, Entries.get?_put] at hold
        split at hold
        · rename_i hsame
          rw [Scalar.sameKey_comm] at hsame
          exact .inr ⟨name, List.mem_cons_self, Scalar.sameKey_text.mp hsame⟩
        · exact .inl (Entries.has_eq_isSome entries key ▸ hold)
      · exact .inr ⟨n, List.mem_cons_of_mem _ hn, heq⟩

/-- **Variables for single settings are a source** of nothing but sections. -/
theorem source_of_variables (honly : OnlySettings vars) (h : fromVariables vars = .ok es) :
    IsSource es ∧ HasOnlySections es := by
  rw [fromVariables_eq] at h
  obtain ⟨hdistinct, hhas⟩ := keys_of_foldlM_putSection List.Pairwise.nil h
  refine ⟨⟨hdistinct, fun section_ hsection d hd => ?_⟩, fun key hkey => ?_⟩
  · have hfound := sectionOf_of_mem (by decide) hsection rfl h
    obtain ⟨es', hes', hvalid, -⟩ := (section_of_variables honly hsection hfound).1 d hd
    exact ⟨es', hes', hvalid⟩
  · exact (hhas key hkey).resolve_left nofun

/-- **What this source has of a setting** is the value of the setting's variable. -/
theorem settingIn_variables (honly : OnlySettings vars) (h : fromVariables vars = .ok es)
    (hsection : section_ ∈ sectionNames) (name : String) :
    settingIn es section_ name = inVariables section_ name vars := by
  rw [fromVariables_eq] at h
  have hfound := sectionOf_of_mem (by decide) hsection rfl h
  obtain ⟨hsome, hnone⟩ := section_of_variables honly hsection hfound
  rcases hd : es.find? section_ with _ | d
  · rw [settingIn_of_none hd, hnone hd]
  · obtain ⟨es', hes', -, hfind⟩ := hsome d hd
    rw [settingIn_of_some hd hes', hfind]

/-- **The variables can be read** exactly if the value of the setting that is a list can. -/
theorem exists_fromVariables_iff (honly : OnlySettings vars) :
    (∃ es, fromVariables vars = .ok es) ↔ Decodes vars := by
  rw [fromVariables_eq, exists_foldlM_putSection, exists_sectionOf_iff honly]

end CodeCatalog.Settings
