/-
Reading JSON text.

The grammar is that of JSON with the words `NaN`, `Infinity` and `-Infinity` added. A key that comes
again keeps its first place and takes the last value. Whole numbers may have at most
`Text.maxWholeDigits` digits, and values may nest at most `maxDepth` deep; the two limits are errors
of their own and not faults of the text.

Readers take what is left of the text and return what they leave. `fuel` bounds the number of calls
on one path; twice the length of the text is always enough, since of two calls in a row one takes a
character away.
-/
import CodeCatalog.Json.Value
import CodeCatalog.Text.Digits

set_option autoImplicit false

namespace CodeCatalog.Json

/-- What is wrong with a text that is no JSON. -/
inductive Malformed
  | valueExpected
  | extraData
  | keyExpected
  | colonExpected
  | commaExpected
  | unterminatedText
  | controlCharacter
  | badEscape
  | badUnicodeEscape
  | byteOrderMark
  deriving Repr, DecidableEq

/-- The wording of a fault. -/
def Malformed.message : Malformed → String
  | .valueExpected => "Expecting value"
  | .extraData => "Extra data"
  | .keyExpected => "Expecting property name enclosed in double quotes"
  | .colonExpected => "Expecting ':' delimiter"
  | .commaExpected => "Expecting ',' delimiter"
  | .unterminatedText => "Unterminated string starting at"
  | .controlCharacter => "Invalid control character at"
  | .badEscape => "Invalid \\escape"
  | .badUnicodeEscape => "Invalid \\uXXXX escape"
  | .byteOrderMark => "Unexpected UTF-8 BOM (decode using utf-8-sig)"

/-- Why a text could not be read. -/
inductive ReadError
  | malformed (fault : Malformed)
  /-- A whole number of this many digits, more than may be read. -/
  | longWhole (digits : Nat)
  /-- Values nest deeper than `maxDepth`. -/
  | tooDeep
  deriving Repr, DecidableEq

/-- How deep values may nest. -/
def maxDepth : Nat := 990

/-! ## Blanks, digits and numbers -/

/-- The blanks between the parts of a JSON text. -/
def isSpace (c : Char) : Bool :=
  c = ' ' || c = '\t' || c = '\n' || c = '\r'

/-- The text without the blanks that it begins with. -/
def skipSpace (cs : List Char) : List Char :=
  cs.dropWhile isSpace

/-- The value of an ASCII digit. -/
def digitValue (c : Char) : Nat :=
  c.toNat - 48

/-- The number that ASCII digits write. -/
def decimalValue (ds : List Char) : Nat :=
  Text.digitsValue 0 (ds.map digitValue)

/-- The digits before the point: a zero on its own, or digits that do not begin with one. -/
def wholePart? : List Char → Option (List Char × List Char)
  | '0' :: rest => some (['0'], rest)
  | c :: rest =>
    if c.isDigit then some ((c :: rest).takeWhile Char.isDigit, (c :: rest).dropWhile Char.isDigit)
    else none
  | [] => none

/-- The digits behind the point, if a point and a digit follow. -/
def fractionPart (cs : List Char) : List Char × List Char :=
  match cs with
  | '.' :: rest =>
    match rest.takeWhile Char.isDigit with
    | [] => ([], cs)
    | ds => (ds, rest.dropWhile Char.isDigit)
  | _ => ([], cs)

/-- The exponent, if the letter and a digit follow. -/
def exponentPart? (cs : List Char) : Option (Int × List Char) :=
  match cs with
  | c :: rest =>
    if c = 'e' ∨ c = 'E' then
      let (negative, body) := Text.splitSign rest
      match body.takeWhile Char.isDigit with
      | [] => none
      | ds =>
        let n : Int := decimalValue ds
        some (if negative then -n else n, body.dropWhile Char.isDigit)
    else none
  | [] => none

/-- A number. -/
def readNumber (cs : List Char) : Except ReadError (Value × List Char) :=
  let (negative, body) := match cs with
    | '-' :: rest => (true, rest)
    | _ => (false, cs)
  match wholePart? body with
  | none => .error (.malformed .valueExpected)
  | some (whole, rest) =>
    let (fraction, rest) := fractionPart rest
    match fraction, exponentPart? rest with
    | [], none =>
      if whole.length > Text.maxWholeDigits then .error (.longWhole whole.length)
      else
        let n : Int := decimalValue whole
        .ok (.int (if negative then -n else n), rest)
    | _, none =>
      .ok (.real (.ofDecimal negative (decimalValue (whole ++ fraction)) (-fraction.length)), rest)
    | _, some (e, rest) =>
      let digits := decimalValue (whole ++ fraction)
      .ok (.real (.ofDecimal negative digits (e - fraction.length)), rest)

/-! ## Strings -/

/-- The value of a hexadecimal digit. -/
def hexValue? (c : Char) : Option Nat :=
  if c.isDigit then some (c.toNat - 48)
  else if 'a' ≤ c ∧ c ≤ 'f' then some (c.toNat - 87)
  else if 'A' ≤ c ∧ c ≤ 'F' then some (c.toNat - 55)
  else none

/-- The number that four hexadecimal digits write, with what follows them. -/
def hexUnit? : List Char → Option (Nat × List Char)
  | a :: b :: c :: d :: rest => do
    let a ← hexValue? a
    let b ← hexValue? b
    let c ← hexValue? c
    let d ← hexValue? d
    return (((a * 16 + b) * 16 + c) * 16 + d, rest)
  | _ => none

/-- Whether a code unit is the first half of a pair. -/
def isHighHalf (n : Nat) : Bool := 0xD800 ≤ n && n ≤ 0xDBFF

/-- Whether a code unit is the second half of a pair. -/
def isLowHalf (n : Nat) : Bool := 0xDC00 ≤ n && n ≤ 0xDFFF

/-- The character of a code unit on its own. Half of a pair is no character, and no text has it in
it: U+FFFD stands for it, so that reading goes on. -/
def unitChar (n : Nat) : Char :=
  if isHighHalf n || isLowHalf n then '\uFFFD' else Char.ofNat n

/-- What follows a code unit, when it is the escape of another one and not the end of the text. -/
def secondUnit? : List Char → Option (List Char)
  | '\\' :: 'u' :: rest => if rest.length > 4 then some rest else none
  | _ => none

/-- The character of a numeric escape, whose text is what follows the letter. An escape at the very
end of the text is refused. -/
def readUnits (cs : List Char) : Except Malformed (Char × List Char) :=
  match hexUnit? cs with
  | none | some (_, []) => .error .badUnicodeEscape
  | some (n, rest) =>
    match isHighHalf n, secondUnit? rest with
    | true, some more =>
      match hexUnit? more with
      | none => .error .badUnicodeEscape
      | some (m, rest') =>
        if isLowHalf m then
          .ok (Char.ofNat (0x10000 + (n - 0xD800) * 0x400 + (m - 0xDC00)), rest')
        else .ok (unitChar n, rest)
    | _, _ => .ok (unitChar n, rest)

/-- The character that an escape stands for, whose text is what follows the backslash. -/
def readEscape : List Char → Except Malformed (Char × List Char)
  | [] => .error .unterminatedText
  | c :: rest =>
    if c = 'u' then readUnits rest
    else if c = '"' ∨ c = '\\' ∨ c = '/' then .ok (c, rest)
    else if c = 'b' then .ok (Char.ofNat 8, rest)
    else if c = 'f' then .ok (Char.ofNat 12, rest)
    else if c = 'n' then .ok ('\n', rest)
    else if c = 'r' then .ok ('\r', rest)
    else if c = 't' then .ok ('\t', rest)
    else .error .badEscape

/-- The characters of a string, put behind those of `before` (last first). The text is what follows
the opening quote. -/
def readText : (fuel : Nat) → (before : List Char) → List Char →
    Except Malformed (List Char × List Char)
  | 0, _, _ => .error .unterminatedText
  | _, _, [] => .error .unterminatedText
  | fuel + 1, before, c :: rest =>
    if c = '"' then .ok (before.reverse, rest)
    else if c = '\\' then
      match readEscape rest with
      | .ok (d, rest) => readText fuel (d :: before) rest
      | .error m => .error m
    else if c.toNat ≤ 0x1F then .error .controlCharacter
    else readText fuel (c :: before) rest

/-! ## Values -/

/-- What follows a word, if the text begins with it. -/
def after? (word : List Char) (cs : List Char) : Option (List Char) :=
  if word.isPrefixOf cs then some (cs.drop word.length) else none

/-- The words that are values. -/
def words : List (List Char × Value) := [
  ("null".toList, .null), ("true".toList, .bool true), ("false".toList, .bool false),
  ("NaN".toList, .real .nan), ("Infinity".toList, .real (.infinite false)),
  ("-Infinity".toList, .real (.infinite true))]

/-- The value of the word that the text begins with. -/
def readWord? (cs : List Char) : Option (Value × List Char) :=
  words.findSome? fun (word, value) => (after? word cs).map (value, ·)

/-- A fault of the text as the outcome of reading it. -/
def fault {α : Type} (m : Malformed) : Except ReadError α :=
  .error (.malformed m)

/-- A string as part of a text. -/
def readString (fuel : Nat) (cs : List Char) : Except ReadError (String × List Char) :=
  match readText fuel [] cs with
  | .ok (s, rest) => .ok (String.ofList s, rest)
  | .error m => fault m

mutual

/-- A value, from its first character on. `depth` is how much deeper lists and objects may nest. -/
def readValue : (fuel depth : Nat) → List Char → Except ReadError (Value × List Char)
  | 0, _, _ => fault .valueExpected
  | _, _, [] => fault .valueExpected
  | fuel + 1, depth, c :: rest =>
    if c = '"' then do
      let (s, rest) ← readString fuel rest
      return (.text s, rest)
    else if c = '[' then
      match depth with
      | 0 => .error .tooDeep
      | depth + 1 => do
        match skipSpace rest with
        | ']' :: rest => return (.list [], rest)
        | rest =>
          let (items, rest) ← readItems fuel depth rest
          return (.list items, rest)
    else if c = '{' then
      match depth with
      | 0 => .error .tooDeep
      | depth + 1 => do
        match skipSpace rest with
        | '}' :: rest => return (.object [], rest)
        | rest =>
          let (fields, rest) ← readFields fuel depth [] rest
          return (.object fields, rest)
    else match readWord? (c :: rest) with
      | some found => .ok found
      | none => readNumber (c :: rest)

/-- The items of a list up to its closing bracket. -/
def readItems : (fuel depth : Nat) → List Char → Except ReadError (List Value × List Char)
  | 0, _, _ => fault .valueExpected
  | fuel + 1, depth, cs => do
    let (v, rest) ← readValue fuel depth cs
    match skipSpace rest with
    | ']' :: rest => return ([v], rest)
    | ',' :: rest =>
      let (vs, rest) ← readItems fuel depth (skipSpace rest)
      return (v :: vs, rest)
    | _ => fault .commaExpected

/-- The fields of an object up to its closing brace, put onto those read before. -/
def readFields : (fuel depth : Nat) → Fields → List Char → Except ReadError (Fields × List Char)
  | 0, _, _, _ => fault .keyExpected
  | fuel + 1, depth, before, cs => do
    let .some rest := after? ['"'] cs | fault .keyExpected
    let (key, rest) ← readString fuel rest
    let .some rest := after? [':'] (skipSpace rest) | fault .colonExpected
    let (v, rest) ← readValue fuel depth (skipSpace rest)
    let fields := before.put key v
    match skipSpace rest with
    | '}' :: rest => return (fields, rest)
    | ',' :: rest => readFields fuel depth fields (skipSpace rest)
    | _ => fault .commaExpected

end

/-- The value that a whole text writes. -/
def readChars (cs : List Char) : Except ReadError Value :=
  match cs with
  | '\uFEFF' :: _ => fault .byteOrderMark
  | _ =>
    match readValue (2 * cs.length + 2) maxDepth (skipSpace cs) with
    | .error e => .error e
    | .ok (v, rest) => if (skipSpace rest).isEmpty then .ok v else fault .extraData

/-- The value that a text writes. -/
def read (s : String) : Except ReadError Value :=
  readChars s.toList

end CodeCatalog.Json
