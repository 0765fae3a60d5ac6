/-
The grammar of a command line: options and arguments, how words are read as them, and how their
values are checked.

Options begin with a hyphen and may stand anywhere among the arguments, up to a word of two hyphens.
A long option takes its value from behind an equals sign or from the next word, a short one from the
rest of its word or from the next word, and short options without values may share a word. A command
that has commands of its own ends its options at the first argument.
-/
import CodeCatalog.Storage.Tree
import CodeCatalog.Text.Digits
import CodeCatalog.Text.Resemblance

set_option autoImplicit false

namespace CodeCatalog.CommandLine

/-! ## Errors -/

/-- Why a value does not fit. -/
inductive ValueError
  | notWhole (text : String)
  | notAmong (text : String) (names : List String)
  /-- No file or folder, as the word says, is there. -/
  | absent (what text : String)
  | isFolder (text : String)
  | isFile (text : String)
  deriving Repr, DecidableEq

/-- The wording of a value that does not fit. -/
def ValueError.message : ValueError → String
  | notWhole s => Text.quoted s ++ " is not a valid integer."
  | notAmong s names =>
    Text.quoted s ++ " is not one of " ++ ", ".intercalate (names.map Text.quoted) ++ "."
  | absent what s => what ++ " " ++ Text.quoted s ++ " does not exist."
  | isFolder s => "File " ++ Text.quoted s ++ " is a directory."
  | isFile s => "Directory " ++ Text.quoted s ++ " is a file."

/-- Why a command line is refused. -/
inductive UsageError
  | unknownOption (name : String) (close : List String)
  | unknownCommand (name : String) (close : List String)
  | needsValue (option : String)
  | takesNoValue (option : String)
  | missingArgument (hint : String) (choices : List String)
  | badValue (hint : String) (reason : ValueError)
  | extraArguments (words : List String)
  | missingCommand
  deriving Repr, DecidableEq

/-- What to try instead of an unknown name. -/
def suggestion (close : List String) : String :=
  match close with
  | [] => ""
  | [name] => " Did you mean " ++ Text.quoted name ++ "?"
  | names => " (Did you mean one of: " ++ ", ".intercalate (names.map Text.quoted) ++ "?)"

/-- The wording of a refusal. -/
def UsageError.message : UsageError → String
  | unknownOption name close =>
    "No such option " ++ Text.quoted name ++ "." ++ suggestion close
  | unknownCommand name close =>
    "No such command " ++ Text.quoted name ++ "." ++ suggestion close
  | needsValue option => "Option " ++ Text.quoted option ++ " requires an argument."
  | takesNoValue option => "Option " ++ Text.quoted option ++ " does not take a value."
  | missingArgument hint choices =>
    "Missing argument '" ++ hint ++ "'." ++
      (if choices.isEmpty then "" else " Choose from:\n\t" ++ ",\n\t".intercalate choices)
  | badValue hint reason => "Invalid value for " ++ hint ++ ": " ++ reason.message
  | extraArguments [word] => "Got unexpected extra argument (" ++ word ++ ")"
  | extraArguments words =>
    "Got unexpected extra arguments (" ++ " ".intercalate words ++ ")"
  | missingCommand => "Missing command."

/-- Why a command line is not carried out: it is refused, or it asks for something else. -/
inductive Stop
  | usage (e : UsageError)
  | help
  | version
  deriving Repr, DecidableEq

/-! ## Forms -/

/-- What a value must be. -/
inductive Form
  | text
  | whole
  | oneOf (names : List String)
  | existingFile
  | existingFolder
  deriving Repr, DecidableEq

/-- An option: its names, the short one first, and what its value must be, if it takes one. -/
structure OptionForm where
  names : List String
  form : Option Form := some .text
  deriving Repr, DecidableEq

/-- The name by which an option's value is looked up. -/
def OptionForm.key (o : OptionForm) : String :=
  o.names.getLastD ""

/-- The names of an option in a message. -/
def OptionForm.hint (o : OptionForm) : String :=
  " / ".intercalate (o.names.map fun n => "'" ++ n ++ "'")

/-- An argument: its name, and what its value must be. -/
structure ArgumentForm where
  name : String
  form : Form := .text
  deriving Repr, DecidableEq

/-- The alternatives of an argument in a message. -/
def ArgumentForm.choices (a : ArgumentForm) : List String :=
  match a.form with
  | .oneOf names => names
  | _ => []

/-- The name of an argument in a message: its alternatives, if it has any. -/
def ArgumentForm.hint (a : ArgumentForm) : String :=
  match a.form with
  | .oneOf names => r"{" ++ "|".intercalate names ++ r"}"
  | _ => a.name

/-- The option that asks for help. -/
def helpOption : OptionForm := { names := ["--help"], form := none }

/-- The option that asks for the version. -/
def versionOption : OptionForm := { names := ["--version"], form := none }

/-- The options and arguments of a command. -/
structure Grammar where
  options : List OptionForm := []
  arguments : List ArgumentForm := []
  /-- Whether commands of its own follow the options. -/
  hasCommands : Bool := false
  deriving Repr, DecidableEq

namespace Grammar

/-- The options, with the one for help. -/
def allOptions (g : Grammar) : List OptionForm :=
  g.options ++ [helpOption]

/-- The option with a name. -/
def find? (g : Grammar) (name : String) : Option OptionForm :=
  g.allOptions.find? (·.names.contains name)

/-- The long names of options. -/
def longNames (g : Grammar) : List String :=
  (g.allOptions.flatMap OptionForm.names).filter (·.startsWith "--")

/-! ## Words -/

/-- What the words of a command line give: options in their order, and the other words. -/
structure Words where
  options : List (OptionForm × String) := []
  others : List String := []
  deriving Repr, DecidableEq

/-- What a word that begins with a hyphen gives: options, and one that waits for the next word, with
the name it was written with. -/
structure OptionWord where
  options : List (OptionForm × String) := []
  waiting : Option (OptionForm × String) := none

/-- The options in a word of short ones. -/
def shortWord (g : Grammar) : List Char → Except UsageError OptionWord
  | [] => .ok {}
  | c :: rest =>
    let name := String.ofList ['-', c]
    match g.find? name with
    | none => .error (.unknownOption name [])
    | some o =>
      if o.form.isSome then
        if rest.isEmpty then .ok { waiting := some (o, name) }
        else .ok { options := [(o, String.ofList rest)] }
      else (g.shortWord rest).map fun w => { w with options := (o, "") :: w.options }

/-- The options in a word that begins with a hyphen. -/
def optionWord (g : Grammar) (word : String) : Except UsageError OptionWord :=
  let cs := word.toList
  let name := String.ofList (cs.takeWhile (· ≠ '='))
  let attached := (cs.dropWhile (· ≠ '=')).tail?
  match if g.longNames.contains name then g.find? name else none, attached with
  | some o, some value =>
    if o.form.isSome then .ok { options := [(o, String.ofList value)] }
    else .error (.takesNoValue name)
  | some o, none =>
    if o.form.isSome then .ok { waiting := some (o, name) } else .ok { options := [(o, "")] }
  | none, _ =>
    if word.startsWith "--" then .error (.unknownOption name (Text.closest name g.longNames))
    else g.shortWord (cs.drop 1)

/-- Whether a word is read as options. -/
def isOptionWord (word : String) : Bool :=
  word.startsWith "-" && word.length > 1

/-- Words with options in front. -/
def Words.after (w : Words) (options : List (OptionForm × String)) : Words :=
  { w with options := options ++ w.options }

/-- Read the words of a command line. -/
def readWords (g : Grammar) : List String → Except UsageError Words
  | [] => .ok {}
  | word :: rest =>
    if word = "--" then .ok { others := rest }
    else if isOptionWord word then
      match g.optionWord word with
      | .error e => .error e
      | .ok { options, waiting := none } => (g.readWords rest).map (·.after options)
      | .ok { options, waiting := some (o, name) } =>
        match rest with
        | [] => .error (.needsValue name)
        | value :: rest => (g.readWords rest).map (·.after (options ++ [(o, value)]))
    else if g.hasCommands then .ok { others := word :: rest }
    else (g.readWords rest).map fun w => { w with others := word :: w.others }

/-! ## Values -/

/-- A value that fits its form. -/
inductive Value
  | text (s : String)
  | whole (n : Int)
  | path (p : Path)
  deriving Repr, DecidableEq

/-- The values of options and arguments by name. -/
abbrev Values := List (String × Value)

/-- The value of an option that takes none, once it is given. -/
def given : Value := .text ""

variable {α : Type}

/-- What stands at a path that is written as a text; at an empty text nothing does. -/
def entryAt? (tree : Tree α) (folder : Place) (s : String) : Option (Entry α) :=
  if s = "" then none else tree.at? folder (.ofText s)

/-- The value that a text writes in a form. -/
def valueOf (tree : Tree α) (folder : Place) (form : Form) (s : String) :
    Except ValueError Value :=
  match form with
  | .text => .ok (.text s)
  | .whole => match Text.readWhole s with
    | .ok n => .ok (.whole n)
    | .error _ => .error (.notWhole s)
  | .oneOf names => if names.contains s then .ok (.text s) else .error (.notAmong s names)
  | .existingFile => match entryAt? tree folder s with
    | none => .error (.absent "File" s)
    | some .folder => .error (.isFolder s)
    | some _ => .ok (.path (.ofText s))
  | .existingFolder => match entryAt? tree folder s with
    | none => .error (.absent "Directory" s)
    | some .folder => .ok (.path (.ofText s))
    | some _ => .error (.isFile s)

/-- The options that are given, each once, in the order in which they first are, with the value that
was given last. -/
def lastValues (options : List (OptionForm × String)) : List (OptionForm × String) :=
  (options.map (·.1)).eraseDups.map fun o =>
    (o, ((options.reverse.find? (·.1 = o)).map (·.2)).getD "")

/-- The values of the options. -/
def optionValues (tree : Tree α) (folder : Place) (options : List (OptionForm × String)) :
    Except UsageError Values :=
  (lastValues options).mapM fun (o, s) =>
    match o.form with
    | none => .ok (o.key, given)
    | some form => match valueOf tree folder form s with
      | .ok v => .ok (o.key, v)
      | .error e => .error (.badValue o.hint e)

/-- The values of the arguments, and the words beyond them. -/
def argumentValues (tree : Tree α) (folder : Place) :
    List ArgumentForm → List String → Except UsageError (Values × List String)
  | [], words => .ok ([], words)
  | a :: _, [] => .error (.missingArgument a.hint a.choices)
  | a :: more, s :: words =>
    match valueOf tree folder a.form s with
    | .error e => .error (.badValue ("'" ++ a.hint ++ "'") e)
    | .ok v =>
      (argumentValues tree folder more words).map fun (vs, rest) => ((a.name, v) :: vs, rest)

/-- The first option that asks for help or the version. -/
def asksFor? (options : List (OptionForm × String)) : Option Stop :=
  options.findSome? fun (o, _) =>
    if o = helpOption then some .help else if o = versionOption then some .version else none

/-- The values that a command line gives, and the words of the command that follows, if there may be
one. Options are looked at before arguments. -/
def read (g : Grammar) (tree : Tree α) (folder : Place) (line : List String) :
    Except Stop (Values × List String) := do
  let words ← (g.readWords line).mapError .usage
  match asksFor? words.options with
  | some stop => throw stop
  | none => pure ()
  let options ← (optionValues tree folder words.options).mapError .usage
  let (arguments, rest) ← (argumentValues tree folder g.arguments words.others).mapError .usage
  if !g.hasCommands && !rest.isEmpty then throw (.usage (.extraArguments rest))
  return (options ++ arguments, rest)

end Grammar

namespace Grammar.Values

/-- The text with a name. -/
def text? (vs : Values) (name : String) : Option String :=
  match vs.lookup name with
  | some (.text s) => some s
  | _ => none

/-- The whole number with a name. -/
def whole? (vs : Values) (name : String) : Option Int :=
  match vs.lookup name with
  | some (.whole n) => some n
  | _ => none

/-- The path with a name. -/
def path? (vs : Values) (name : String) : Option Path :=
  match vs.lookup name with
  | some (.path p) => some p
  | _ => none

/-- Whether a name has a value. -/
def has (vs : Values) (name : String) : Bool :=
  (vs.lookup name).isSome

end Grammar.Values

end CodeCatalog.CommandLine
