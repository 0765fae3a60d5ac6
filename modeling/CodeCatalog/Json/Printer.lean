/-
Two texts of a JSON value.

* `render` writes JSON in ASCII: everything outside the printable ASCII range is escaped, in UTF-16
  code units, and the separators are `", "` and `": "`.
* `describe` is the text that messages show: words for null and the truth values, quoted text inside
  lists and objects, and plain text on its own.
-/
import CodeCatalog.Json.Value
import CodeCatalog.Decimal.Shortest
import CodeCatalog.Text.Quoted

set_option autoImplicit false

namespace CodeCatalog.Json

/-! ## JSON text -/

/-- An escaped UTF-16 code unit. -/
def unitEscape (n : Nat) : List Char :=
  '\\' :: 'u' :: Text.hexDigits 4 n

/-- A character inside a JSON string. -/
def escapeChar (c : Char) : List Char :=
  let n := c.toNat
  if c = '"' ∨ c = '\\' then ['\\', c]
  else if c = '\n' then ['\\', 'n']
  else if c = '\r' then ['\\', 'r']
  else if c = '\t' then ['\\', 't']
  else if n = 8 then ['\\', 'b']
  else if n = 12 then ['\\', 'f']
  else if 0x20 ≤ n ∧ n ≤ 0x7E then [c]
  else if n ≤ 0xFFFF then unitEscape n
  else unitEscape (0xD800 + (n - 0x10000) / 0x400) ++ unitEscape (0xDC00 + (n - 0x10000) % 0x400)

/-- A text as a JSON string. -/
def renderText (s : String) : List Char :=
  '"' :: (s.toList.flatMap escapeChar ++ ['"'])

/-- A floating-point number in JSON, with words for the values that JSON has no digits for. -/
def renderReal : Binary64 → String
  | .nan => "NaN"
  | .infinite s => if s then "-Infinity" else "Infinity"
  | x => x.toText

/-- Texts with a comma and a blank between them. -/
def commaJoin : List (List Char) → List Char
  | [] => []
  | [x] => x
  | x :: rest => x ++ ',' :: ' ' :: commaJoin rest

mutual

/-- The JSON text of a value, as characters. -/
def renderChars : Value → List Char
  | .null => "null".toList
  | .bool b => (if b then "true" else "false").toList
  | .int n => (toString n).toList
  | .real x => (renderReal x).toList
  | .text s => renderText s
  | .list items => '[' :: (commaJoin (renderItems items) ++ [']'])
  | .object fields => '{' :: (commaJoin (renderFields fields) ++ ['}'])

/-- The JSON texts of the items of a list. -/
def renderItems : List Value → List (List Char)
  | [] => []
  | v :: rest => renderChars v :: renderItems rest

/-- The JSON texts of the fields of an object. -/
def renderFields : List (String × Value) → List (List Char)
  | [] => []
  | (k, v) :: rest => (renderText k ++ ':' :: ' ' :: renderChars v) :: renderFields rest

end

/-- The JSON text of a value. -/
def render (v : Value) : String :=
  String.ofList (renderChars v)

/-! ## Descriptions -/

mutual

/-- A value inside a message, with text in quotes. -/
def describeInner : Value → String
  | .null => "None"
  | .bool b => if b then "True" else "False"
  | .int n => toString n
  | .real x => x.toText
  | .text s => Text.quoted s
  | .list items => "[" ++ ", ".intercalate (describeItems items) ++ "]"
  | .object fields => r"{" ++ ", ".intercalate (describeFields fields) ++ r"}"

/-- The descriptions of the items of a list. -/
def describeItems : List Value → List String
  | [] => []
  | v :: rest => describeInner v :: describeItems rest

/-- The descriptions of the fields of an object. -/
def describeFields : List (String × Value) → List String
  | [] => []
  | (k, v) :: rest => (Text.quoted k ++ ": " ++ describeInner v) :: describeFields rest

end

/-- A value on its own in a message: text is shown as it is. -/
def describe : Value → String
  | .text s => s
  | v => describeInner v

end CodeCatalog.Json
