/-
Numbers that settings write as text.

A whole number may have blanks around it, a sign, zeros in front, single low lines between its
digits, and a fraction of zeros behind it. A real number is written with digits, a point and an
exponent, or as one of the words for infinity and not-a-number; low lines may be strewn in. Only the
ten ASCII digits count.
-/
import CodeCatalog.Json.Reader
import CodeCatalog.Text.Digits

set_option autoImplicit false

namespace CodeCatalog.Settings

open Json (decimalValue exponentPart?)

/-! ## Whole numbers -/

/-- Whether digits write a number in its plain form: some digits, and no zero in front of another
digit. -/
def arePlainDigits : List Char → Bool
  | [] => false
  | ['0'] => true
  | c :: rest => c ≠ '0' && (c :: rest).all Char.isDigit

/-- Why a text is no whole number of the settings. -/
inductive WholeProblem
  | unreadable
  | tooLong
  deriving Repr, DecidableEq

/-- The digits at the front of a text, of a number that does not begin with a zero. -/
def leadingRun (cs : List Char) : List Char :=
  if cs.head? = some '0' then [] else cs.takeWhile Char.isDigit

/-- The number that plain digits write. A run of too many digits is refused as such, whatever stands
behind it. -/
def plainNumber (cs : List Char) : Except WholeProblem Nat :=
  if (leadingRun cs).length > Text.maxWholeDigits then .error .tooLong
  else if arePlainDigits cs then .ok (decimalValue cs)
  else .error .unreadable

/-- The whole number in its plain form: a minus or nothing, and plain digits. -/
def plainWhole (cs : List Char) : Except WholeProblem Int :=
  match cs with
  | '-' :: digits => (plainNumber digits).map fun n => -(n : Int)
  | digits => (plainNumber digits).map fun n => (n : Int)

/-- The text from its first other character on, without the zeros and low lines in front of it. That
character is a digit or a minus; before a point the last of what is dropped stays, and so it does at
the end. `last` is the character before. -/
def dropLeadingZeros? (last : Char) : List Char → Option (List Char)
  | [] => some [last]
  | c :: rest =>
    if c = '0' ∨ c = '_' then dropLeadingZeros? c rest
    else if c.isDigit ∨ c = '-' then some (c :: rest)
    else if c = '.' then some (last :: c :: rest)
    else none

/-- The text without a plus in front. A plus in front of a minus is refused. -/
def dropPlus? : List Char → Option (List Char)
  | '+' :: '-' :: _ => none
  | '+' :: rest => some rest
  | cs => some cs

/-- The text without zeros in front, if it begins with a digit or a minus. Zeros behind a minus
stay. -/
def withoutLeadingZeros? : List Char → Option (List Char)
  | '0' :: rest => dropLeadingZeros? '0' rest
  | c :: rest => if c.isDigit ∨ c = '-' then some (c :: rest) else none
  | [] => none

/-- The text without a fraction, if the fraction is one or more zeros. -/
def withoutFraction? (cs : List Char) : Option (List Char) :=
  match cs.dropWhile (· ≠ '.') with
  | [] => some cs
  | _ :: fraction =>
    if fraction ≠ [] ∧ fraction.all (· = '0') then some (cs.takeWhile (· ≠ '.')) else none

/-- Whether low lines stand only on their own and between other characters. -/
def hasSingleLowLines (cs : List Char) : Bool :=
  cs.head? ≠ some '_' && cs.getLast? ≠ some '_' &&
    (cs.zip (cs.drop 1)).all fun (a, b) => !(a = '_' && b = '_')

/-- The text without its low lines, if each stands on its own between other characters. -/
def withoutLowLines? (cs : List Char) : Option (List Char) :=
  if hasSingleLowLines cs then some (cs.filter (· ≠ '_')) else none

/-- The text in plain form, as far as a plus, zeros, fraction and low lines go. -/
def plainForm? (cs : List Char) : Option (List Char) := do
  withoutLowLines? (← withoutFraction? (← withoutLeadingZeros? (← dropPlus? cs)))

/-- The whole number that a text writes: as it stands, or else in plain form. -/
def wholeOfText (s : String) : Except WholeProblem Int :=
  let cs := Text.trimBy Text.isNumberBlank s.toList
  match plainWhole cs with
  | .error .unreadable =>
    match plainForm? cs with
    | some plain => plainWhole plain
    | none => .error .unreadable
  | answer => answer

/-! ## Real numbers -/

/-- The words for numbers that have no digits. -/
def realWord? (negative : Bool) (cs : List Char) : Option Binary64 :=
  let word := String.ofList (cs.map Char.toLower)
  if word = "inf" ∨ word = "infinity" then some (.infinite negative)
  else if word = "nan" then some .nan
  else none

/-- The real number that a text writes: a sign, digits with a point among them or at either end, and
an exponent, or a word. -/
def plainReal? (cs : List Char) : Option Binary64 :=
  let (negative, body) := Text.splitSign cs
  let whole := body.takeWhile Char.isDigit
  let rest := body.dropWhile Char.isDigit
  let fraction := if rest.head? = some '.' then (rest.drop 1).takeWhile Char.isDigit else []
  let rest := if rest.head? = some '.' then (rest.drop 1).dropWhile Char.isDigit else rest
  let digits := whole ++ fraction
  if digits.isEmpty then realWord? negative body
  else match rest, exponentPart? rest with
    | [], _ => some (.ofDecimal negative (decimalValue digits) (-fraction.length))
    | _, some (e, []) => some (.ofDecimal negative (decimalValue digits) (e - fraction.length))
    | _, _ => none

/-- The real number that a text writes between blanks, or with low lines and without blanks. -/
def realOfText? (s : String) : Option Binary64 :=
  match plainReal? (Text.trimBy Text.isNumberBlank s.toList) with
  | some x => some x
  | none => if s.contains '_' then (withoutLowLines? s.toList).bind plainReal? else none

end CodeCatalog.Settings
