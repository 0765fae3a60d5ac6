/-
Data of settings files and settings variables: scalars, lists, and tables whose keys are scalars.

Beside the values of JSON there are dates, moments, bytes, pairs and sets. A table keeps the order
of its keys; keys that are numerically equal are one key, whatever kind of number they are.

A list or a table in a settings file may hold itself. It is written out as far as settings reach,
each time as a `knot` with a label of its own, and beyond that as `again`. In a message, what lies
within a list or a table of the same label is left out.
-/
import CodeCatalog.Json.Printer
import CodeCatalog.Text.Digits

set_option autoImplicit false

namespace CodeCatalog

/-- A single value. -/
inductive Scalar
  | null
  | bool (b : Bool)
  | int (n : Int)
  | real (x : Binary64)
  | text (s : String)
  | date (year month day : Nat)
  /-- A date and a time of day, with the distance from universal time in seconds, if it is known. -/
  | moment (year month day hour minute second micro : Nat) (offset : Option Int)
  | bytes (bs : List UInt8)
  deriving Repr, DecidableEq, Inhabited

/-- A value of a settings source. -/
inductive Datum
  | scalar (s : Scalar)
  | list (items : List Datum)
  | table (entries : List (Scalar × Datum))
  /-- A pair of an ordered table. -/
  | pair (first second : Datum)
  | set (members : List Scalar)
  /-- A list or a table that holds itself. -/
  | knot (label : Nat) (d : Datum)
  /-- A table or a list that is not written out again. -/
  | again (isTable : Bool)
  deriving Repr, Inhabited

/-- The entries of a table. -/
abbrev Entries := List (Scalar × Datum)

namespace Scalar

/-- The number that a scalar stands for as a key. -/
def keyForm : Scalar → Scalar
  | bool b => int (if b then 1 else 0)
  | real x => match x.toInt? with
    | some n => int n
    | none => real x
  | s => s

/-- Whether two scalars are one key. -/
def sameKey (a b : Scalar) : Bool :=
  a.keyForm = b.keyForm

/-! ## Texts -/

/-- A number with zeros in front up to a width. -/
def padded (width n : Nat) : String :=
  let digits := toString n
  String.ofList (List.replicate (width - digits.length) '0') ++ digits

/-- A distance from universal time: sign, hours, minutes, and seconds if there are any. -/
def offsetText (seconds : Int) : String :=
  let n := seconds.natAbs
  let rest := n % 60
  (if seconds < 0 then "-" else "+") ++ padded 2 (n / 3600) ++ ":" ++ padded 2 (n / 60 % 60) ++
    (if rest = 0 then "" else ":" ++ padded 2 rest)

/-- A date in words of a message. -/
def dateText (y m d : Nat) : String :=
  padded 4 y ++ "-" ++ padded 2 m ++ "-" ++ padded 2 d

/-- A byte inside quotes. -/
def quotedByte (quote : Char) (b : UInt8) : List Char :=
  let n := b.toNat
  if n = quote.toNat ∨ n = 92 then ['\\', Char.ofNat n]
  else if n = 9 then ['\\', 't']
  else if n = 10 then ['\\', 'n']
  else if n = 13 then ['\\', 'r']
  else if 32 ≤ n ∧ n ≤ 126 then [Char.ofNat n]
  else '\\' :: 'x' :: Text.hexDigits 2 n

/-- Bytes between quotes, of the kind that a text of the same characters has. -/
def bytesText (bs : List UInt8) : String :=
  let quote := Text.quoteFor (String.ofList (bs.map fun b => Char.ofNat b.toNat))
  String.ofList ('b' :: quote :: (bs.flatMap (quotedByte quote) ++ [quote]))

/-- A length of time in a message: whole days, which may be negative, and the seconds beyond them.
-/
def intervalText (seconds : Int) : String :=
  let days := seconds.fdiv 86400
  let rest := seconds.fmod 86400
  let parts := (if days = 0 then [] else ["days=" ++ toString days]) ++
    (if rest = 0 then [] else ["seconds=" ++ toString rest])
  "datetime.timedelta(" ++ (if parts.isEmpty then "0" else ", ".intercalate parts) ++ ")"

/-- A distance from universal time inside lists and tables. -/
def offsetInner (seconds : Int) : String :=
  if seconds = 0 then "datetime.timezone.utc"
  else "datetime.timezone(" ++ intervalText seconds ++ ")"

/-- A scalar inside a list or a table in a message. -/
def describeInner : Scalar → String
  | null => "None"
  | bool b => if b then "True" else "False"
  | int n => toString n
  | real x => x.toText
  | text s => Text.quoted s
  | date y m d =>
    "datetime.date(" ++ toString y ++ ", " ++ toString m ++ ", " ++ toString d ++ ")"
  | moment y m d h mi s us offset =>
    let parts := [y, m, d, h, mi] ++
      (if us ≠ 0 then [s, us] else if s ≠ 0 then [s] else [])
    "datetime.datetime(" ++ ", ".intercalate (parts.map toString) ++
      (match offset with
        | none => ""
        | some o => ", tzinfo=" ++ offsetInner o) ++ ")"
  | bytes bs => bytesText bs

/-- Whether a scalar has not too many digits for a message. -/
def canDescribe : Scalar → Bool
  | int n => n.natAbs < Nat.pow 10 Text.maxWholeDigits
  | _ => true

/-- A scalar on its own in a message. -/
def describe : Scalar → String
  | text s => s
  | date y m d => dateText y m d
  | moment y m d h mi s us offset =>
    dateText y m d ++ " " ++ padded 2 h ++ ":" ++ padded 2 mi ++ ":" ++ padded 2 s ++
      (if us = 0 then "" else "." ++ padded 6 us) ++
      (match offset with
        | none => ""
        | some o => offsetText o)
  | s => s.describeInner

end Scalar

/-! ## Entries -/

namespace Entries

/-- The value under a key. -/
def get? (entries : Entries) (key : Scalar) : Option Datum :=
  (entries.find? (·.1.sameKey key)).map (·.2)

/-- The value under a text. -/
def find? (entries : Entries) (key : String) : Option Datum :=
  entries.get? (.text key)

/-- The entries with a key bound to a value: in its old place if it has one, otherwise at the end.
-/
def put (entries : Entries) (key : Scalar) (value : Datum) : Entries :=
  match entries with
  | [] => [(key, value)]
  | (k, v) :: rest => if k.sameKey key then (k, value) :: rest else (k, v) :: put rest key value

/-- Whether a key is there. -/
def has (entries : Entries) (key : Scalar) : Bool :=
  entries.any (·.1.sameKey key)

end Entries

namespace Datum

/-- The null value. -/
def null : Datum := .scalar .null

/-- A text. -/
def text (s : String) : Datum := .scalar (.text s)

/-- A datum without its label. -/
def bare : Datum → Datum
  | knot _ d => d.bare
  | d => d

/-- Whether a datum is a table. -/
def isTable : Datum → Bool
  | .table _ => true
  | .knot _ d => d.isTable
  | .again isTable => isTable
  | _ => false

mutual

/-- A JSON value as a datum. -/
def ofJson : Json.Value → Datum
  | .null => .scalar .null
  | .bool b => .scalar (.bool b)
  | .int n => .scalar (.int n)
  | .real x => .scalar (.real x)
  | .text s => .scalar (.text s)
  | .list items => .list (ofItems items)
  | .object fields => .table (ofFields fields)

/-- The items of a JSON list as data. -/
def ofItems : List Json.Value → List Datum
  | [] => []
  | v :: rest => ofJson v :: ofItems rest

/-- The fields of a JSON object as entries. -/
def ofFields : List (String × Json.Value) → Entries
  | [] => []
  | (k, v) :: rest => (.text k, ofJson v) :: ofFields rest

end

/-- What stands for a table or a list that is left out in a message. -/
def omitted (isTable : Bool) : String :=
  if isTable then "{...}" else "[...]"

/-- The members of a set in a message. -/
def describeSet (members : List Scalar) : String :=
  if members.isEmpty then "set()"
  else r"{" ++ ", ".intercalate (members.map Scalar.describeInner) ++ r"}"

mutual

/-- A datum inside a list or a table in a message; `around` are the labels of those around it. -/
def describeWithin (around : List Nat) : Datum → String
  | .scalar s => s.describeInner
  | .list items => "[" ++ ", ".intercalate (describeItems around items) ++ "]"
  | .table entries => r"{" ++ ", ".intercalate (describeEntries around entries) ++ r"}"
  | .pair a b => "(" ++ describeWithin around a ++ ", " ++ describeWithin around b ++ ")"
  | .set members => describeSet members
  | .knot label d =>
    if around.contains label then omitted d.isTable else describeWithin (label :: around) d
  | .again isTable => omitted isTable

/-- The descriptions of the items of a list. -/
def describeItems (around : List Nat) : List Datum → List String
  | [] => []
  | d :: rest => describeWithin around d :: describeItems around rest

/-- The descriptions of the entries of a table. -/
def describeEntries (around : List Nat) : List (Scalar × Datum) → List String
  | [] => []
  | (k, d) :: rest =>
    (k.describeInner ++ ": " ++ describeWithin around d) :: describeEntries around rest

end

/-- A datum on its own in a message. -/
def describe : Datum → String
  | .scalar s => s.describe
  | d => d.describeWithin []

mutual

/-- Whether no number in a datum has too many digits for a message. -/
def canDescribe : Datum → Bool
  | .scalar s => s.canDescribe
  | .list items => canDescribeItems items
  | .table entries => canDescribeEntries entries
  | .pair a b => canDescribe a && canDescribe b
  | .set members => members.all Scalar.canDescribe
  | .knot _ d => canDescribe d
  | .again _ => true

/-- Whether all items of a list can be described. -/
def canDescribeItems : List Datum → Bool
  | [] => true
  | d :: rest => canDescribe d && canDescribeItems rest

/-- Whether all entries of a table can be described. -/
def canDescribeEntries : List (Scalar × Datum) → Bool
  | [] => true
  | (k, d) :: rest => k.canDescribe && canDescribe d && canDescribeEntries rest

end

mutual

/-- A datum as a JSON value. What JSON does not have becomes a text or a list. -/
def toJson : Datum → Json.Value
  | .scalar .null => .null
  | .scalar (.bool b) => .bool b
  | .scalar (.int n) => .int n
  | .scalar (.real x) => .real x
  | .scalar s => .text s.describe
  | .list items => .list (toJsonItems items)
  | .table entries => .object (toJsonFields entries)
  | .pair a b => .list [toJson a, toJson b]
  | .set members => .list (members.map fun m => .text m.describe)
  | .knot _ d => toJson d
  | .again _ => .null

/-- The items of a list as JSON values. -/
def toJsonItems : List Datum → List Json.Value
  | [] => []
  | d :: rest => toJson d :: toJsonItems rest

/-- The entries of a table as JSON fields. -/
def toJsonFields : List (Scalar × Datum) → Json.Fields
  | [] => []
  | (k, d) :: rest => (k.describe, toJson d) :: toJsonFields rest

end

/-- Whether a datum counts as nothing: null, false, zero, or empty. -/
def isNothing : Datum → Bool
  | .scalar .null => true
  | .scalar (.bool b) => !b
  | .scalar (.int n) => n = 0
  | .scalar (.real (.finite _ u)) => u = 0
  | .scalar (.text s) => s = ""
  | .scalar (.bytes bs) => bs.isEmpty
  | .scalar _ => false
  | .list items => items.isEmpty
  | .table entries => entries.isEmpty
  | .pair _ _ => false
  | .set members => members.isEmpty
  | .knot _ d => d.isNothing
  | .again _ => false

/-! ## Merging -/

mutual

/-- One datum laid over another: tables are merged key by key, anything else replaces what it
covers.
-/
def merge (base : Datum) : (top : Datum) → Datum
  | .table top => match base.bare with
    | .table base => .table (mergeOver base top)
    | _ => .table top
  | .knot label top => match base.bare with
    | .table _ => merge base top
    | _ => .knot label top
  | top => top

/-- Entries laid over others. Keys keep the order of the lower source, new ones follow. -/
def mergeOver (base : Entries) : (top : List (Scalar × Datum)) → Entries
  | [] => base
  | (key, value) :: rest =>
    let value := match base.get? key with
      | some old => merge old value
      | none => value
    mergeOver (base.put key value) rest

end

mutual

/-- Whether laying one datum over another never comes to an end: both hold themselves, on the same
way. -/
def meetsAgain (base : Datum) : (top : Datum) → Bool
  | .table top => match base.bare with
    | .table base => meetsAgainIn base top
    | _ => false
  | .knot _ top => match base with
    | .again true => top.isTable
    | _ => meetsAgain base top
  | .again isTable => match base with
    | .knot _ d => isTable && d.isTable
    | .again b => isTable && b
    | _ => false
  | _ => false

/-- Whether some entry that is laid over another one never comes to an end. -/
def meetsAgainIn (base : Entries) : (top : List (Scalar × Datum)) → Bool
  | [] => false
  | (key, value) :: rest =>
    (match base.get? key with
      | some old => meetsAgain old value
      | none => false) || meetsAgainIn base rest

end

end Datum

end CodeCatalog
