/-
Settings from environment variables.

The names of the variables begin with `CODEINDEXER__`; the parts of a way to a setting follow, with
two low lines between them, in any case. A variable named for a section holds the whole section as
JSON, and variables for single settings are laid over it. Their values stay texts, except that of a
setting that is a list, which is JSON.
-/
import CodeCatalog.Settings.Check
import CodeCatalog.Text.Case

set_option autoImplicit false

namespace CodeCatalog.Settings

/-! ## Names -/

/-- What the names of the variables begin with, in lower case. -/
def variableLead : List Char := "codeindexer__".toList

/-- The pieces of a name between double low lines. `piece` is the current one, reversed. -/
def splitName (piece : List Char) : List Char → List String
  | [] => [String.ofList piece.reverse]
  | [c] => [String.ofList (c :: piece).reverse]
  | a :: b :: rest =>
    if a = '_' ∧ b = '_' then String.ofList piece.reverse :: splitName [] rest
    else splitName (a :: piece) (b :: rest)

/-- The text behind a beginning, if the text has it. -/
def behind? (lead text : List Char) : Option (List Char) :=
  if lead.isPrefixOf text then some (text.drop lead.length) else none

/-- A value put under a name: in its old place if the name has one, otherwise at the end. -/
def putNamed {α : Type} (name : String) (value : α) : List (String × α) → List (String × α)
  | [] => [(name, value)]
  | (n, v) :: rest => if n = name then (n, value) :: rest else (n, v) :: putNamed name value rest

/-- The variables with their names in lower case; of equal names the last value counts. -/
def lowered (vars : List (String × String)) : List (String × String) :=
  vars.foldl (fun vs (name, value) => putNamed (Text.lower name) value vs) []

/-- The ways of the variables for single settings of a section, with their values. -/
def waysInto (section_ : String) (vars : List (String × String)) :
    List (List String × String) :=
  let lead := variableLead ++ section_.toList ++ ['_', '_']
  vars.filterMap fun (name, value) =>
    (behind? lead name.toList).map fun rest => (splitName [] rest, value)

/-- The names of the settings of a section. -/
def settingNames : (section_ : String) → List String
  | "logging" => ["level", "outputs"]
  | "index" =>
    ["index_path", "writer_heap_size_mb", "writer_num_threads", "refresh_min_interval_sec"]
  | "limits" =>
    ["name_search_default", "kind_search_default", "parent_search_default",
      "advanced_search_default"]
  | _ => []

/-- The names of the variables for all sections and settings, in capitals. -/
def variableNames : List String :=
  let capitals := fun cs : List Char => String.ofList (cs.map Char.toUpper)
  sectionNames.flatMap fun section_ =>
    let lead := variableLead ++ section_.toList
    capitals lead :: (settingNames section_).map fun name =>
      capitals (lead ++ "__".toList ++ name.toList)

/-! ## Values -/

/-- Why a section cannot be read from the variables. -/
inductive VariableError
  /-- A value of the section is no JSON text. -/
  | unreadable
  | fault (fault : Fault)
  deriving Repr, DecidableEq

/-- The datum that a JSON text writes. -/
def jsonDatum (s : String) : Except VariableError Datum :=
  match Json.read s with
  | .ok v => .ok (.ofJson v)
  | .error .tooDeep => .error (.fault .tooDeep)
  | .error _ => .error .unreadable

/-- A section with a value put at the end of a way. Tables on the way are made where nothing stands;
what stands there and is no table stays. -/
def putAt (entries : Entries) (value : Datum) : (way : List String) → Entries
  | [] => entries
  | [last] => entries.put (.text last) value
  | step :: rest =>
    match entries.find? step with
    | none => entries.put (.text step) (.table (putAt [] value rest))
    | some (.table inner) => entries.put (.text step) (.table (putAt inner value rest))
    | some _ => entries

/-- The ways to settings that are lists. -/
def isListSetting (section_ : String) (way : List String) : Bool :=
  section_ = "logging" && way.map Text.lower = ["outputs"]

/-- The value of a variable for a single setting. -/
def settingValue (section_ : String) (way : List String) (value : String) :
    Except VariableError Datum :=
  if isListSetting section_ way && value ≠ "" then jsonDatum value else .ok (.text value)

/-- A section from the variables for its single settings. -/
def fromWays (section_ : String) (ways : List (List String × String)) :
    Except VariableError Entries :=
  ways.foldlM (fun entries (way, value) => do
    return putAt entries (← settingValue section_ way value) way) []

/-- A section whose names are written as the settings are, where they differ in case alone. -/
def withSettingNames (section_ : String) (entries : Entries) : Entries :=
  entries.foldl (fun es (key, value) =>
    let key := match key with
      | .text name =>
        .text (((settingNames section_).find? (· = Text.lower name)).getD name)
      | key => key
    es.put key value) []

/-- A section from the variables, if they have it. A section that is null counts as absent. -/
def sectionOf (vars : List (String × String)) (section_ : String) :
    Except VariableError (Option Datum) := do
  let ways := waysInto section_ vars
  match vars.lookup (String.ofList (variableLead ++ section_.toList)) with
  | none =>
    let entries ← fromWays section_ ways
    return if entries.isEmpty then none else some (.table (withSettingNames section_ entries))
  | some json =>
    match ← jsonDatum json with
    | .table base =>
      let entries := Datum.mergeOver base (← fromWays section_ ways)
      return some (.table (withSettingNames section_ entries))
    | .scalar .null => return none
    | d => return some d

/-- The sections that the variables have. An error tells its section. -/
def fromVariables (vars : List (String × String)) :
    Except (String × VariableError) Entries :=
  let vars := lowered vars
  sectionNames.foldlM (fun entries name =>
    match sectionOf vars name with
    | .error e => .error (name, e)
    | .ok none => .ok entries
    | .ok (some d) => .ok (entries.put (.text name) d)) []

end CodeCatalog.Settings
