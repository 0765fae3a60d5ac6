/-
The tags of YAML nodes, and the tag that a plain text has by its form.

A plain text may be a truth value, a real or whole number, a date, or nothing, written as the second
edition of the language has them: numbers with low lines, to the bases 2, 8, 16 and 60, real numbers
only with a point, and truth values in six words.
-/
import CodeCatalog.Text.Digits

set_option autoImplicit false

namespace CodeCatalog.Yaml

/-- What a node is. -/
inductive Tag
  | null
  | bool
  | int
  | real
  | binary
  | timestamp
  | orderedMap
  | pairs
  | set
  | text
  | sequence
  | mapping
  | merge
  | value
  | other (name : String)
  deriving Repr, DecidableEq

namespace Tag

/-- What the standard tags begin with. -/
def standardLead : String := "tag:yaml.org,2002:"

/-- The standard tags. -/
def standard : List (String × Tag) := [
  ("null", null), ("bool", bool), ("int", int), ("float", real), ("binary", binary),
  ("timestamp", timestamp), ("omap", orderedMap), ("pairs", pairs), ("set", set), ("str", text),
  ("seq", sequence), ("map", mapping), ("merge", merge), ("value", value)]

/-- The tag with a name. -/
def ofName (name : String) : Tag :=
  ((standard.find? fun (short, _) => standardLead ++ short = name).map (·.2)).getD (other name)

/-! ## Forms of plain texts -/

/-- A text without the break at its end, which a form passes over. -/
def withoutLastBreak (cs : List Char) : List Char :=
  if cs.length > 1 && cs.getLast? = some '\n' then cs.dropLast else cs

/-- The text behind a sign, if one is there. -/
def unsigned : List Char → List Char
  | '+' :: rest => rest
  | '-' :: rest => rest
  | cs => cs

/-- A digit or a low line. -/
def isSpacedDigit (c : Char) : Bool :=
  c.isDigit || c = '_'

/-- Whether a text begins with a digit. -/
def startsWithDigit (cs : List Char) : Bool :=
  (cs.head?.map Char.isDigit).getD false

/-- Whether a text is one of some words. -/
def isWord (words : List String) (cs : List Char) : Bool :=
  words.contains (String.ofList cs)

/-- Whether a text is a truth value. -/
def isBool : List Char → Bool :=
  isWord ["yes", "Yes", "YES", "no", "No", "NO", "true", "True", "TRUE", "false", "False", "FALSE",
    "on", "On", "ON", "off", "Off", "OFF"]

/-- Whether a text is nothing. -/
def isNull : List Char → Bool :=
  isWord ["", "~", "null", "Null", "NULL"]

/-- Whether a text is nothing, or an exponent with a sign. -/
def isExponent : List Char → Bool
  | [] => true
  | e :: sign :: digits =>
    (e = 'e' || e = 'E') && (sign = '+' || sign = '-') && !digits.isEmpty && digits.all Char.isDigit
  | _ => false

/-- What follows groups of a colon and a number below sixty, of which there must be one at least. -/
def sixties? (fuel : Nat) (cs : List Char) : Option (List Char) :=
  match fuel, cs with
  | fuel + 1, ':' :: a :: b :: rest =>
    let width := if a.isDigit && b.isDigit && a < '6' then 2 else if a.isDigit then 1 else 0
    if width = 0 then none
    else
      let rest := (a :: b :: rest).drop width
      if rest.head? = some ':' then sixties? fuel rest else some rest
  | _, [':', a] => if a.isDigit then some [] else none
  | _, _ => none

/-- Whether a text is a number to the base sixty; `ending` tells what may follow the groups. -/
def isSixties (ending : List Char → Bool) (cs : List Char) : Bool :=
  startsWithDigit cs &&
    match sixties? cs.length (cs.dropWhile isSpacedDigit) with
    | some rest => ending rest
    | none => false

/-- Whether a text is a point with digits and low lines behind it. -/
def isPointed : List Char → Bool
  | '.' :: rest => rest.all isSpacedDigit
  | _ => false

/-- Whether a text is a real number. -/
def isReal (cs : List Char) : Bool :=
  let body := unsigned cs
  let rest := body.dropWhile isSpacedDigit
  let afterPoint := (rest.drop 1).dropWhile isSpacedDigit
  (startsWithDigit body && rest.head? = some '.' && isExponent afterPoint) ||
    (cs.head? = some '.' && startsWithDigit (cs.drop 1) &&
      isExponent ((cs.drop 1).dropWhile isSpacedDigit)) ||
    isSixties isPointed body ||
    isWord [".inf", ".Inf", ".INF"] body ||
    isWord [".nan", ".NaN", ".NAN"] cs

/-- Whether some digits follow, all of a class. -/
def areDigits (digit : Char → Bool) (cs : List Char) : Bool :=
  !cs.isEmpty && cs.all digit

/-- A digit to the base sixteen, or a low line. -/
def isHexDigit (c : Char) : Bool :=
  isSpacedDigit c || ('a' ≤ c && c ≤ 'f') || ('A' ≤ c && c ≤ 'F')

/-- Whether a text is a whole number. -/
def isInt (cs : List Char) : Bool :=
  let body := unsigned cs
  match body with
  | '0' :: 'b' :: rest => areDigits (fun c => c = '0' || c = '1' || c = '_') rest
  | '0' :: 'x' :: rest => areDigits isHexDigit rest
  | '0' :: rest => rest.all fun c => isSpacedDigit c && c ≠ '8' && c ≠ '9'
  | _ => startsWithDigit body && (body.all isSpacedDigit || isSixties List.isEmpty body)

/-! ## Dates -/

/-- A date and, if it is given, a time of day, as they are written. -/
structure Stamp where
  year : Nat
  month : Nat
  day : Nat
  /-- Whether month and day are written with two digits each. -/
  isPadded : Bool
  /-- Hour, minute, second and millionths. -/
  time : Option (Nat × Nat × Nat × Nat)
  /-- The distance from universal time in minutes. -/
  offset : Option Int
  deriving Repr, DecidableEq

/-- A number of one digit up to some, with what follows. -/
def shortNumber? (least most : Nat) (cs : List Char) : Option (Nat × Nat × List Char) :=
  let digits := (cs.take most).takeWhile Char.isDigit
  if digits.length < least then none
  else some (Text.digitsValue 0 (digits.map fun d => d.toNat - 48), digits.length,
    cs.drop digits.length)

/-- What follows a character, if the text begins with it. -/
def after? (c : Char) : List Char → Option (List Char)
  | d :: rest => if c = d then some rest else none
  | [] => none

/-- The millionths that a fraction writes, with what follows it. -/
def fractionOf (cs : List Char) : Nat × List Char :=
  match cs with
  | '.' :: rest =>
    let digits := (rest.takeWhile Char.isDigit).take 6
    let padded := digits ++ List.replicate (6 - digits.length) '0'
    (Text.digitsValue 0 (padded.map fun d => d.toNat - 48), rest.dropWhile Char.isDigit)
  | _ => (0, cs)

/-- A blank between the parts of a date. -/
def isGap (c : Char) : Bool := c = ' ' || c = '\t'

/-- The distance from universal time at the end of a date. -/
def zone? (cs : List Char) : Option (Option Int) :=
  match cs.dropWhile isGap with
  | [] => if cs.isEmpty then some none else none
  | ['Z'] => some (some 0)
  | sign :: rest =>
    if sign = '+' || sign = '-' then do
      let (hours, _, rest) ← shortNumber? 1 2 rest
      let minutes ← match rest with
        | [] => some 0
        | ':' :: rest => do
          let (n, _, rest) ← shortNumber? 2 2 rest
          if rest.isEmpty then some n else none
        | _ => none
      let n : Int := (60 * hours + minutes : Nat)
      return some (if sign = '-' then -n else n)
    else none

/-- The time of day and the distance from universal time behind a date. -/
def time? (cs : List Char) : Option ((Nat × Nat × Nat × Nat) × Option Int) := do
  let rest ← match cs with
    | 'T' :: rest => some rest
    | 't' :: rest => some rest
    | c :: _ => if isGap c then some (cs.dropWhile isGap) else none
    | [] => none
  let (hour, _, rest) ← shortNumber? 1 2 rest
  let (minute, _, rest) ← shortNumber? 2 2 (← after? ':' rest)
  let (second, _, rest) ← shortNumber? 2 2 (← after? ':' rest)
  let (micro, rest) := fractionOf rest
  return ((hour, minute, second, micro), ← zone? rest)

/-- The date that a text writes. -/
def stamp? (cs : List Char) : Option Stamp := do
  let (year, _, rest) ← shortNumber? 4 4 (withoutLastBreak cs)
  let (month, monthDigits, rest) ← shortNumber? 1 2 (← after? '-' rest)
  let (day, dayDigits, rest) ← shortNumber? 1 2 (← after? '-' rest)
  let isPadded := monthDigits = 2 && dayDigits = 2
  match rest with
  | [] => return { year, month, day, isPadded, time := none, offset := none }
  | _ =>
    let (time, offset) ← time? rest
    return { year, month, day, isPadded, time := some time, offset }

/-- Whether a text is a date by its form: month and day need two digits unless a time follows. -/
def isTimestamp (cs : List Char) : Bool :=
  match stamp? cs with
  | some s => s.isPadded || s.time.isSome
  | none => false

/-- The tag that a plain text has by its form. -/
def ofPlain (s : String) : Tag :=
  let cs := withoutLastBreak s.toList
  if isBool cs then bool
  else if isReal cs then real
  else if isInt cs then int
  else if cs = ['<', '<'] then merge
  else if isNull cs then null
  else if isTimestamp cs then timestamp
  else if cs = ['='] then value
  else text

end Tag

end CodeCatalog.Yaml
