/-
How the words of an invocation are read.

The words before a command are options: whether to tell more, and which folder is the root
(`Front`). They are read up to the name of the command, which is no option itself, and the words
behind it are left to the command (`read_front`).

What a command reads is written out for the three commands that matter for the contents of an index.
Arguments that begin like options are written behind two hyphens (`written`, `spelled`). Of any words a
command makes the same in two trees where the words name the same (`read_congr`), since nothing but
the existence of files and folders is looked at.
-/
import CodeCatalog.CommandLine.Program
import Mathlib.Tactic

set_option autoImplicit false

namespace CodeCatalog.CommandLine

open Search

variable {α : Type} {tree tree' : Tree α} {folder : Place} {g : Grammar} {rest : List String}

/-! ## The words before a command

These are the options for more messages and for the root, in any number. They are read up to the
first word that is no option, which is the name of the command. -/

/-- What is written before a command. -/
structure Front where
  verbose : Bool := false
  root? : Option String := none

/-- The words that write it. -/
def Front.words (f : Front) : List String :=
  (if f.verbose then ["-v"] else []) ++ match f.root? with
    | some root => ["--root", root]
    | none => []

/-- What is read from these words. -/
def Front.values (f : Front) : Grammar.Values :=
  (if f.verbose then [("--verbose", Grammar.given)] else []) ++ match f.root? with
    | some root => [("--root", .path (.ofText root))]
    | none => []

/-- The text of the root, with the working folder for one that is not written. -/
def Front.root (f : Front) : Path :=
  .ofText (f.root?.getD ".")

def verboseOption : OptionForm := { names := ["-v", "--verbose"], form := none }

def rootOption : OptionForm := { names := ["--root"], form := some .existingFolder }

/-- The option for more messages is a word of its own. -/
theorem readWords_verbose : mainGrammar.readWords ("-v" :: rest) =
    (mainGrammar.readWords rest).map (·.after [(verboseOption, "")]) := by
  have hword : mainGrammar.optionWord "-v" = .ok { options := [(verboseOption, "")] } := by
    with_unfolding_all rfl
  rw [Grammar.readWords.eq_def]
  simp only [hword]
  rw [if_neg (by decide), if_pos (by decide +kernel)]

/-- The option for the root takes the word behind it, whatever that is. -/
theorem readWords_root (root : String) : mainGrammar.readWords ("--root" :: root :: rest) =
    (mainGrammar.readWords rest).map (·.after [(rootOption, root)]) := by
  have hword : mainGrammar.optionWord "--root" =
      .ok { waiting := some (rootOption, "--root") } := by
    with_unfolding_all rfl
  rw [Grammar.readWords.eq_def]
  simp only [hword, List.nil_append]
  rw [if_neg (by decide), if_pos (by decide +kernel)]

/-- A word that is no option is the name of a command, where there may be one. -/
theorem readWords_name {name : String} (hcommands : g.hasCommands = true)
    (hname : Grammar.isOptionWord name = false) :
    g.readWords (name :: rest) = .ok { others := name :: rest } := by
  have hne : name ≠ "--" := by
    rintro rfl
    exact absurd hname (by decide +kernel)
  rw [Grammar.readWords, if_neg hne, hname, hcommands]
  rfl

/-- The options that are read from the words before a command. -/
def Front.options (f : Front) : List (OptionForm × String) :=
  (if f.verbose then [(verboseOption, "")] else []) ++ match f.root? with
    | some root => [(rootOption, root)]
    | none => []

/-- The words before a command are options, up to the name of the command. -/
theorem readWords_front (f : Front) {name : String} (hname : Grammar.isOptionWord name = false) :
    mainGrammar.readWords (f.words ++ name :: rest) =
      .ok { options := f.options, others := name :: rest } := by
  have hlast : mainGrammar.readWords (name :: rest) = .ok { others := name :: rest } :=
    readWords_name rfl hname
  -- both options may be there or not, each in one spelling
  rcases f with ⟨_ | _, _ | root⟩
  · exact hlast
  · show mainGrammar.readWords ("--root" :: root :: name :: rest) = _
    rw [readWords_root, hlast]
    rfl
  · show mainGrammar.readWords ("-v" :: name :: rest) = _
    rw [readWords_verbose, hlast]
    rfl
  · show mainGrammar.readWords ("-v" :: "--root" :: root :: name :: rest) = _
    rw [readWords_verbose, readWords_root, hlast]
    rfl

/-- The root that is written is a folder. -/
def Front.InTree (f : Front) (tree : Tree α) (folder : Place) : Prop :=
  ∀ root ∈ f.root?, Grammar.entryAt? tree folder root = some .folder

/-- The options before a command have their values where the root is a folder. -/
theorem optionValues_front {f : Front} (h : f.InTree tree folder) :
    Grammar.optionValues tree folder f.options = .ok f.values := by
  -- each option stands there once
  have hlast : Grammar.lastValues f.options = f.options := by
    rcases f with ⟨_ | _, _ | root⟩
    · rfl
    · rfl
    · rfl
    · rfl
  have hroot : ∀ root ∈ f.root?, Grammar.valueOf tree folder .existingFolder root =
      .ok (.path (.ofText root)) := by
    intro root hmem
    rw [Grammar.valueOf, h root hmem]
  rw [Grammar.optionValues, hlast]
  rcases f with ⟨_ | _, _ | root⟩
  · rfl
  · simp only [Front.options, rootOption, Bool.false_eq_true, if_false, List.nil_append,
      List.mapM_cons, List.mapM_nil, hroot root rfl]
    rfl
  · rfl
  · simp only [Front.options, rootOption, verboseOption, if_true, List.cons_append,
      List.nil_append, List.mapM_cons, List.mapM_nil, hroot root rfl]
    rfl

/-- **The words before a command** are read up to its name. -/
theorem read_front {f : Front} {name : String} (h : f.InTree tree folder)
    (hname : Grammar.isOptionWord name = false) :
    mainGrammar.read tree folder (f.words ++ name :: rest) = .ok (f.values, name :: rest) := by
  -- neither of the two options asks for help or the version
  have hasks : Grammar.asksFor? f.options = none := by
    rcases f with ⟨_ | _, _ | root⟩
    · rfl
    · rfl
    · rfl
    · rfl
  rw [Grammar.read, readWords_front f hname]
  simp only [Except.mapError, bind, Except.bind, hasks, optionValues_front h]
  show Except.ok (f.values ++ [], name :: rest) = _
  rw [List.append_nil]

/-- Whether there are more messages is told by whether the option is there. -/
theorem has_verbose (f : Front) : f.values.has "--verbose" = f.verbose := by
  rcases f with ⟨_ | _, _ | root⟩
  · rfl
  · rfl
  · rfl
  · rfl

/-- The root is the last one that is given, or the folder of the invocation. -/
theorem path_root (f : Front) : (f.values.path? "--root").getD (.ofText ".") = f.root := by
  rcases f with ⟨_ | _, _ | root⟩
  · rfl
  · rfl
  · rfl
  · rfl

/-- Where nothing but a command is expected, the words from its name on are left to it. -/
theorem read_name {name : String} (hcommands : g.hasCommands = true) (harguments : g.arguments = [])
    (hname : Grammar.isOptionWord name = false) :
    g.read tree folder (name :: rest) = .ok ([], name :: rest) := by
  rw [Grammar.read, readWords_name hcommands hname, harguments]
  simp only [Except.mapError, bind, Except.bind, hcommands]
  rfl

/-! ## Arguments

Words written as arguments are read as these, with two hyphens in front if one of them begins like
an option. -/

/-- Texts as arguments: behind two hyphens if one of them begins like an option. -/
def written (ss : List String) : List String :=
  if ss.any Grammar.isOptionWord then "--" :: ss else ss

/-- A text as an argument: behind two hyphens if it begins like an option. -/
def spelled (s : String) : List String :=
  if Grammar.isOptionWord s then ["--", s] else [s]

theorem spelled_eq (s : String) : spelled s = written [s] := by
  rw [spelled, written, List.any_cons, List.any_nil, Bool.or_false]

/-- Words that are written as arguments are read as these. -/
theorem readWords_written (hcommands : g.hasCommands = false) (ss : List String) :
    g.readWords (written ss) = .ok { others := ss } := by
  rw [written]
  by_cases hss : ss.any Grammar.isOptionWord = true
  · rw [if_pos hss, Grammar.readWords.eq_def]
    simp
  · rw [if_neg hss]
    -- none of the words is two hyphens, which begin like an option
    induction ss with
    | nil => rfl
    | cons s ss ih =>
      rw [List.any_cons, Bool.or_eq_true, not_or] at hss
      obtain ⟨hs, hrest⟩ := hss
      have hne : s ≠ "--" := by
        rintro rfl
        exact hs (by decide +kernel)
      rw [Grammar.readWords, if_neg hne, if_neg hs, hcommands, ih hrest]
      rfl

/-- A command takes as many arguments as it has from texts that are written. -/
theorem read_written {ss : List String} {vs : Grammar.Values} (hcommands : g.hasCommands = false)
    (hvalues : Grammar.argumentValues tree folder g.arguments ss = .ok (vs, [])) :
    g.read tree folder (written ss) = .ok (vs, []) := by
  rw [Grammar.read, readWords_written hcommands]
  simp only [Except.mapError, bind, Except.bind, Grammar.asksFor?, List.findSome?_nil, hvalues,
    hcommands]
  rfl

/-- A command with one argument takes what is spelled. -/
theorem read_spelled {a : ArgumentForm} {s : String} {v : Grammar.Value}
    (hcommands : g.hasCommands = false) (harguments : g.arguments = [a])
    (hvalue : Grammar.valueOf tree folder a.form s = .ok v) :
    g.read tree folder (spelled s) = .ok ([(a.name, v)], []) := by
  rw [spelled_eq]
  refine read_written hcommands ?_
  rw [harguments, Grammar.argumentValues, hvalue]
  rfl

/-! ## Words in two trees

Whether a word is accepted may depend on the files, but only for words that are paths. So two trees
that agree on where these lead read a line alike. -/

/-- The form is checked by a look at files. -/
def Form.IsPath (form : Form) : Prop :=
  form = .existingFile ∨ form = .existingFolder

instance : DecidablePred Form.IsPath :=
  fun _ => inferInstanceAs (Decidable (_ ∨ _))

namespace Grammar

/-- The value of a word depends on files only where it is a path. -/
theorem valueOf_congr {form : Form} {s : String}
    (h : form.IsPath → entryAt? tree folder s = entryAt? tree' folder s) :
    valueOf tree folder form s = valueOf tree' folder form s := by
  cases form with
  | text => rfl
  | whole => rfl
  | oneOf names => rfl
  | existingFile => rw [valueOf, valueOf, h (.inl rfl)]
  | existingFolder => rw [valueOf, valueOf, h (.inr rfl)]

theorem mem_of_find? {name : String} {o : OptionForm} (h : g.find? name = some o) :
    o ∈ g.allOptions :=
  List.mem_of_find?_eq_some h

/-- The options that a word gives are options of the grammar. -/
structure OptionWord.Of (g : Grammar) (w : OptionWord) : Prop where
  options : ∀ p ∈ w.options, p.1 ∈ g.allOptions
  waiting : ∀ p ∈ w.waiting, p.1 ∈ g.allOptions

/-- A word with one hyphen names options of the grammar. -/
theorem of_shortWord {cs : List Char} {w : OptionWord} (h : g.shortWord cs = .ok w) : w.Of g := by
  induction cs generalizing w with
  | nil =>
    obtain rfl := Except.ok.inj h
    exact ⟨nofun, nofun⟩
  | cons c rest ih =>
    rw [shortWord] at h
    rcases ho : g.find? (String.ofList ['-', c]) with _ | o
    · simp only [ho, reduceCtorEq] at h
    have hmem := mem_of_find? ho
    simp only [ho] at h
    -- an option that takes a value waits for it or has the rest of the word; a flag has letters
    -- behind it
    split_ifs at h
    · obtain rfl := Except.ok.inj h
      exact ⟨nofun, fun p hp => (Option.some.inj hp) ▸ hmem⟩
    · obtain rfl := Except.ok.inj h
      exact ⟨fun p hp => List.mem_singleton.mp hp ▸ hmem, nofun⟩
    · rcases hrest : g.shortWord rest with e | w'
      · rw [hrest] at h
        exact absurd h nofun
      · rw [hrest] at h
        obtain rfl := Except.ok.inj h
        exact ⟨List.forall_mem_cons.mpr ⟨hmem, (ih hrest).options⟩, (ih hrest).waiting⟩

/-- Any word for an option does. -/
theorem of_optionWord {word : String} {w : OptionWord} (h : g.optionWord word = .ok w) :
    w.Of g := by
  rw [optionWord] at h
  -- a word is an option with its value behind an equals sign, an option in full, or several short
  -- ones
  split at h
  · next o value ho _ =>
    split_ifs at ho h
    obtain rfl := Except.ok.inj h
    exact ⟨fun p hp => List.mem_singleton.mp hp ▸ mem_of_find? ho, nofun⟩
  · next o ho _ =>
    split_ifs at ho h
    · obtain rfl := Except.ok.inj h
      exact ⟨nofun, fun p hp => (Option.some.inj hp) ▸ mem_of_find? ho⟩
    · obtain rfl := Except.ok.inj h
      exact ⟨fun p hp => List.mem_singleton.mp hp ▸ mem_of_find? ho, nofun⟩
  · split_ifs at h
    exact of_shortWord h

/-- The options that are read are options of the grammar, and the other words are words of the
line. -/
structure Words.Of (g : Grammar) (line : List String) (w : Words) : Prop where
  options : ∀ p ∈ w.options, p.1 ∈ g.allOptions
  others : w.others ⊆ line

/-- What a result is made of is a result. -/
theorem exists_of_map {ε β γ : Type} {r : Except ε β} {f : β → γ} {y : γ} (h : r.map f = .ok y) :
    ∃ x, r = .ok x ∧ f x = y := by
  rcases r with e | x
  · exact absurd h nofun
  · exact ⟨x, rfl, Except.ok.inj h⟩

/-- The words that are read are options of the grammar and words of the line. -/
theorem of_readWords {line : List String} {w : Words} (h : g.readWords line = .ok w) :
    w.Of g line := by
  fun_induction g.readWords line generalizing w with
  | case1 =>
    obtain rfl := Except.ok.inj h
    exact ⟨nofun, List.Subset.refl _⟩
  | case2 rest =>
    obtain rfl := Except.ok.inj h
    exact ⟨nofun, List.subset_cons_self _ _⟩
  | case3 => exact absurd h nofun
  | case4 word rest _ _ options hword ih =>
    -- the options of the word stand before those of the others
    obtain ⟨w', hrest, rfl⟩ := exists_of_map h
    refine ⟨?_, List.subset_cons_of_subset _ (ih hrest).others⟩
    exact List.forall_mem_append.mpr ⟨(of_optionWord hword).options, (ih hrest).options⟩
  | case5 => exact absurd h nofun
  | case6 word _ _ options o name hword value rest ih =>
    obtain ⟨w', hrest, rfl⟩ := exists_of_map h
    have hof := of_optionWord hword
    refine ⟨?_, List.subset_cons_of_subset _ (List.subset_cons_of_subset _ (ih hrest).others)⟩
    refine List.forall_mem_append.mpr ⟨List.forall_mem_append.mpr ⟨hof.options, ?_⟩,
      (ih hrest).options⟩
    have hmem : o ∈ g.allOptions := hof.waiting (o, name) rfl
    exact List.forall_mem_singleton.mpr hmem
  | case7 word rest =>
    obtain rfl := Except.ok.inj h
    exact ⟨nofun, List.Subset.refl _⟩
  | case8 word rest _ _ _ ih =>
    obtain ⟨w', hrest, rfl⟩ := exists_of_map h
    exact ⟨(ih hrest).options, List.cons_subset_cons _ (ih hrest).others⟩

/-- What agrees on each of several things agrees on all of them. -/
theorem mapM_congr {ε β γ : Type} {f f' : β → Except ε γ} {xs : List β}
    (h : ∀ x ∈ xs, f x = f' x) : xs.mapM f = xs.mapM f' := by
  induction xs with
  | nil => rfl
  | cons x xs ih =>
    rw [List.forall_mem_cons] at h
    rw [List.mapM_cons, List.mapM_cons, h.1, ih h.2]

/-- The values of options that take no path do not depend on files. -/
theorem optionValues_congr {options : List (OptionForm × String)}
    (h : ∀ p ∈ options, ∀ form ∈ p.1.form, ¬ form.IsPath) :
    optionValues tree folder options = optionValues tree' folder options := by
  -- what an option gives depends on the files only where it is a path
  refine mapM_congr ?_
  rintro ⟨o, s⟩ hp
  rw [lastValues, List.mem_map] at hp
  obtain ⟨o', ho, heq⟩ := hp
  obtain ⟨rfl, -⟩ := Prod.mk.inj heq
  rw [List.mem_eraseDups, List.mem_map] at ho
  obtain ⟨p, hp, rfl⟩ := ho
  have hform := h p hp
  dsimp only
  rcases hf : p.1.form with _ | form
  · rfl
  · dsimp only
    rw [valueOf_congr fun hpath => absurd hpath (hform form hf)]

/-- The values of arguments depend on files only through what stands where their words lead. -/
theorem argumentValues_congr {arguments : List ArgumentForm} {words : List String}
    (h : ∀ a ∈ arguments, a.form.IsPath → ∀ word ∈ words,
      entryAt? tree folder word = entryAt? tree' folder word) :
    argumentValues tree folder arguments words = argumentValues tree' folder arguments words := by
  induction arguments generalizing words with
  | nil => rfl
  | cons a more ih =>
    cases words with
    | nil => rfl
    | cons s words =>
      rw [List.forall_mem_cons] at h
      -- one word for each argument, and the rest of the words for the rest of the arguments
      have hrest : argumentValues tree folder more words = argumentValues tree' folder more words :=
        ih fun a ha hpath word hword => h.2 a ha hpath word (List.mem_cons_of_mem _ hword)
      rw [argumentValues, argumentValues, hrest, valueOf_congr fun hpath =>
        h.1 hpath s List.mem_cons_self]

/-- **A line is read alike in two trees** where no option is a path, and where the words of the line
name the same in both if an argument is one. -/
theorem read_congr {line : List String}
    (hoptions : ∀ o ∈ g.allOptions, ∀ form ∈ o.form, ¬ form.IsPath)
    (harguments : ∀ a ∈ g.arguments, a.form.IsPath → ∀ word ∈ line,
      entryAt? tree folder word = entryAt? tree' folder word) :
    g.read tree folder line = g.read tree' folder line := by
  rw [read, read]
  rcases hwords : g.readWords line with e | w
  · rfl
  have hof := of_readWords hwords
  -- the options depend on no file, so only the arguments are left
  have hvalues : optionValues tree folder w.options = optionValues tree' folder w.options :=
    optionValues_congr fun p hp => hoptions p.1 (hof.options p hp)
  have hothers : argumentValues tree folder g.arguments w.others =
      argumentValues tree' folder g.arguments w.others :=
    argumentValues_congr fun a ha hpath word hword => harguments a ha hpath word (hof.others hword)
  simp only [Except.mapError, bind, Except.bind, hvalues, hothers]

/-! ## Words that were read

What was read of a line says what the line was: which arguments it had, and that a file which has to
be there is there. -/

variable {a : ArgumentForm} {more : List ArgumentForm} {line others : List String} {vs : Values}

/-- **A line that was read** had words, did not ask for help, and gave the values of its options and
of its arguments. -/
theorem read_ok (h : g.read tree folder line = .ok (vs, rest)) :
    ∃ w options arguments, g.readWords line = .ok w ∧ asksFor? w.options = none ∧
      optionValues tree folder w.options = .ok options ∧
      argumentValues tree folder g.arguments w.others = .ok (arguments, rest) ∧
      vs = options ++ arguments := by
  rw [read] at h
  -- a reading has five steps, and each may refuse; the one that gets through names them all
  rcases hwords : g.readWords line with e | w <;> rw [hwords] at h
  · exact absurd h nofun
  simp only [Except.mapError, bind, Except.bind] at h
  rcases hasks : asksFor? w.options with _ | stop <;> rw [hasks] at h
  · rcases hoptions : optionValues tree folder w.options with e | options <;> rw [hoptions] at h
    · exact absurd h nofun
    rcases harguments : argumentValues tree folder g.arguments w.others with e | ⟨arguments, rest'⟩
      <;> rw [harguments] at h
    · exact absurd h nofun
    · dsimp only at h
      split at h
      · exact absurd h nofun
      · obtain ⟨rfl, rfl⟩ := Prod.mk.inj (Except.ok.inj h)
        exact ⟨w, options, arguments, rfl, hasks, hoptions, harguments, rfl⟩
  · exact absurd h nofun

/-- The first argument has its value from one of the words. -/
theorem argumentValues_cons
    (h : argumentValues tree folder (a :: more) others = .ok (vs, rest)) :
    ∃ word ∈ others, ∃ v vs', valueOf tree folder a.form word = .ok v ∧ vs = (a.name, v) :: vs' := by
  rcases others with _ | ⟨word, others⟩
  · exact absurd h nofun
  rw [argumentValues] at h
  rcases hvalue : valueOf tree folder a.form word with e | v <;> rw [hvalue] at h
  · exact absurd h nofun
  · obtain ⟨⟨vs', rest'⟩, -, heq⟩ := exists_of_map h
    obtain ⟨rfl, -⟩ := Prod.mk.inj heq
    exact ⟨word, List.mem_cons_self, v, vs', hvalue, rfl⟩

/-- Where help is the only option, a line that was read has no option. -/
theorem options_eq_nil {options : List (OptionForm × String)}
    (h : ∀ p ∈ options, p.1 = helpOption) (hasks : asksFor? options = none) : options = [] := by
  rcases options with _ | ⟨⟨o, s⟩, rest⟩
  · rfl
  · obtain rfl : o = helpOption := h _ List.mem_cons_self
    exact absurd hasks nofun

/-- The first argument of a command without options is one of the words. -/
theorem argument_of_read (hoptions : g.options = []) (harguments : g.arguments = a :: more)
    (h : g.read tree folder line = .ok (vs, rest)) :
    ∃ word ∈ line, ∃ v, valueOf tree folder a.form word = .ok v ∧ vs.lookup a.name = some v := by
  obtain ⟨w, options, arguments, hwords, hasks, hvalues, hothers, rfl⟩ := read_ok h
  have hof := of_readWords hwords
  -- the only option of such a command is the one that asks for help, and that one would have ended
  -- the reading
  have hhelp : ∀ p ∈ w.options, p.1 = helpOption := by
    intro p hp
    have hmem := hof.options p hp
    rw [allOptions, hoptions] at hmem
    exact List.mem_singleton.mp hmem
  rw [options_eq_nil hhelp hasks] at hvalues
  obtain rfl := Except.ok.inj hvalues
  rw [harguments] at hothers
  obtain ⟨word, hword, v, vs', hvalue, rfl⟩ := argumentValues_cons hothers
  exact ⟨word, hof.others hword, v, hvalue, List.lookup_cons_self⟩

/-- A text that writes an existing file is its path. -/
theorem of_existingFile {s : String} {v : Value}
    (h : valueOf tree folder .existingFile s = .ok v) :
    v = .path (.ofText s) ∧ ∃ x, x ≠ .folder ∧ tree.at? folder (.ofText s) = some x := by
  rw [valueOf] at h
  rcases hentry : entryAt? tree folder s with _ | x <;> rw [hentry] at h
  · exact absurd h nofun
  -- a folder is refused here, so what is found is a file
  have hat : tree.at? folder (.ofText s) = some x := by
    rw [entryAt?] at hentry
    split at hentry
    · exact absurd hentry nofun
    · exact hentry
  cases x with
  | folder => exact absurd h nofun
  | file bytes => exact ⟨(Except.ok.inj h).symm, .file bytes, nofun, hat⟩
  | artifact x bytes => exact ⟨(Except.ok.inj h).symm, .artifact x bytes, nofun, hat⟩

end Grammar

end CodeCatalog.CommandLine
