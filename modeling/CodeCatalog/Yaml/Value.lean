/-
The single values that texts with tags stand for.

The tag of a text says how it is read. A text that does not fit its tag is a fault; a tag that is
unknown, or stands for a collection, makes the document malformed.
-/
import CodeCatalog.Settings.Datum
import CodeCatalog.Settings.Number
import CodeCatalog.Text.Case
import CodeCatalog.Text.Cut
import CodeCatalog.Yaml.Base64
import CodeCatalog.Yaml.Node

set_option autoImplicit false

namespace CodeCatalog.Yaml

namespace Tag

/-! ## Numbers -/

/-- Fail with a fault. -/
def fails {α : Type} (f : Fault) : Except Error α :=
  .error (.fault f)

/-- A text without low lines. -/
def withoutLowLines (s : String) : List Char :=
  s.toList.filter (· ≠ '_')

/-- The value of a digit of any base up to sixteen. -/
def baseDigit? (base : Nat) (c : Char) : Option Nat :=
  (Text.digit? c <|> Json.hexValue? c).filter (· < base)

/-- The letters that may follow a zero in front of a number to a base. -/
def baseLetters : Nat → List Char
  | 2 => ['b', 'B']
  | 8 => ['o', 'O']
  | 16 => ['x', 'X']
  | _ => []

/-- The digits behind the mark of a base, if it is there. -/
def withoutBaseMark (base : Nat) : List Char → List Char
  | '0' :: c :: rest => if (baseLetters base).contains c then rest else '0' :: c :: rest
  | cs => cs

/-- The whole number that digits write to a base, whose mark may stand in front of them. -/
def wholeToBase (base : Nat) (cs : List Char) : Except Error Int :=
  let (negative, body) := Text.splitSign (Text.trimBy Text.isNumberBlank cs)
  let digits := withoutBaseMark base body
  match if digits.isEmpty then none else digits.mapM (baseDigit? base) with
  | some ds =>
    let n : Int := (ds.foldl (fun n d => base * n + d) 0 : Nat)
    .ok (if negative then -n else n)
  | none => fails (.badDigits base (String.ofList cs))

/-- The whole number that decimal digits write. -/
def decimalWhole (cs : List Char) : Except Error Int :=
  match Text.readWhole (String.ofList cs) with
  | .ok n => .ok n
  | .error .malformed => fails (.badWhole (String.ofList cs))
  | .error (.tooLong n) => fails (.longWhole n)

/-- Numbers between colons as one number to the base sixty. -/
def sixtyfold (parts : List Int) : Int :=
  parts.foldl (fun n d => 60 * n + d) 0

/-- Whether a text begins with a minus, and the text without its sign. A number has one character at
least. -/
def signed (cs : List Char) : Except Error (Bool × List Char) :=
  if cs.isEmpty then fails .emptyNumber else .ok (Text.splitSign cs)

/-- The whole number that a text without its sign writes: to the base 2, 16 or 8 behind a zero, to
the base 60 between colons. -/
def unsignedWhole (body : List Char) : Except Error Int :=
  match body with
  | [] => fails .emptyNumber
  | ['0'] => .ok 0
  | '0' :: 'b' :: rest => wholeToBase 2 rest
  | '0' :: 'x' :: rest => wholeToBase 16 rest
  | '0' :: _ => wholeToBase 8 body
  | _ =>
    if body.contains ':' then do
      return sixtyfold (← (Text.cutAt (· = ':') body).mapM decimalWhole)
    else decimalWhole body

/-- The whole number that a text writes. -/
def whole (s : String) : Except Error Int := do
  let (negative, body) ← signed (withoutLowLines s)
  let n ← unsignedWhole body
  return if negative then -n else n

/-- A decimal digit of any script as the plain one. -/
def plainDigit (c : Char) : Char :=
  ((Text.digit? c).map fun n => Char.ofNat (48 + n)).getD c

/-- The real number that a part of a text writes. -/
def decimalReal (cs : List Char) : Except Error Binary64 :=
  match Settings.plainReal? ((Text.trimBy Text.isNumberBlank cs).map plainDigit) with
  | some x => .ok x
  | none => fails (.badReal (String.ofList cs))

/-- The sum of some numbers, given from the last one on, that count `base` and its multiples by
sixty. Each multiple has to be a real number. -/
def sixtyfoldSum (sum : Binary64) (base : Int) : (reversed : List Binary64) → Except Error Binary64
  | [] => .ok sum
  | x :: rest =>
    let factor := Binary64.ofInt base
    if factor.isFinite then sixtyfoldSum (sum.add (x.mul factor)) (60 * base) rest
    else fails .wholeTooLarge

/-- Numbers between colons as one real number to the base sixty. -/
def sixtyfoldReal (parts : List Binary64) : Except Error Binary64 :=
  sixtyfoldSum .zero 1 parts.reverse

/-- The real number that a text without its sign writes. -/
def unsignedReal (body : List Char) : Except Error Binary64 :=
  if String.ofList body = ".inf" then .ok (.infinite false)
  else if String.ofList body = ".nan" then .ok .nan
  else if body.contains ':' then do
    sixtyfoldReal (← (Text.cutAt (· = ':') body).mapM decimalReal)
  else decimalReal body

/-- The real number that a text writes. -/
def realNumber (s : String) : Except Error Binary64 := do
  let (negative, body) ← signed (Text.lowerChars (withoutLowLines s))
  let x ← unsignedReal body
  return if negative then x.neg else x

/-! ## Dates -/

/-- Whether a year has a 29th of February. -/
def isLeap (year : Nat) : Bool :=
  year % 4 = 0 && (year % 100 ≠ 0 || year % 400 = 0)

/-- How many days a month has. -/
def daysIn (year month : Nat) : Nat :=
  if month = 2 then (if isLeap year then 29 else 28)
  else if [4, 6, 9, 11].contains month then 30
  else 31

/-- Fail unless a part of a date lies in its range. -/
def requireRange (holds : Bool) (otherwise : String) : Except Error Unit :=
  if holds then .ok () else fails (.badMoment otherwise)

/-- Fail unless there is such a day. -/
def requireDay (s : Stamp) : Except Error Unit := do
  requireRange (1 ≤ s.year) ("year " ++ toString s.year ++ " is out of range")
  requireRange (1 ≤ s.month && s.month ≤ 12) "month must be in 1..12"
  requireRange (1 ≤ s.day && s.day ≤ daysIn s.year s.month) "day is out of range for month"

/-- Fail unless a distance from universal time is less than a day. -/
def requireOffset (minutes : Int) : Except Error Unit :=
  requireRange (minutes.natAbs < 1440)
    ("offset must be a timedelta strictly between -timedelta(hours=24) and " ++
      "timedelta(hours=24), not " ++ Scalar.intervalText (60 * minutes) ++ ".")

/-- The date that a stamp tells. -/
def moment (s : Stamp) : Except Error Scalar := do
  match s.time with
  | none =>
    requireDay s
    return .date s.year s.month s.day
  | some (hour, minute, second, micro) =>
    (s.offset.map requireOffset).getD (.ok ())
    requireDay s
    requireRange (hour < 24) "hour must be in 0..23"
    requireRange (minute < 60) "minute must be in 0..59"
    requireRange (second < 60) "second must be in 0..59"
    return .moment s.year s.month s.day hour minute second micro (s.offset.map (60 * ·))

/-! ## Scalars -/

/-- Fail because of the text's form. -/
def malformed {α : Type} (reason : Malformed) : Except Error α :=
  .error (.malformed reason)

/-- The truth value of a word. -/
def truth (s : String) : Except Error Bool :=
  let word := Text.lower s
  if ["yes", "true", "on"].contains word then .ok true
  else if ["no", "false", "off"].contains word then .ok false
  else fails (.unknownKey word)

/-- The value of a text with a tag. -/
def scalar (t : Tag) (s : String) : Except Error Scalar :=
  match t with
  | null => .ok .null
  | bool => Scalar.bool <$> truth s
  | int => Scalar.int <$> whole s
  | real => Scalar.real <$> realNumber s
  | text => .ok (.text s)
  | timestamp => match stamp? s.toList with
    | some stamp => moment stamp
    | none => fails (.noMember .null "groupdict")
  | binary => match Base64.decode? s with
    | some bs => .ok (.bytes bs)
    | none => malformed .badBinary
  | orderedMap | pairs | set | sequence | mapping => malformed .wrongTag
  | merge | value | other _ => malformed .unknownTag

end Tag

end CodeCatalog.Yaml
