/-
Lower case, in the two ways that the catalogue needs it.

* `lower` treats a text as a whole: a capital sigma that ends a word becomes the final form `ς`.
* `lowerEach` treats every character on its own, by the newer edition of the character standard: a
  capital sigma always becomes `σ`.

In both, a capital `I` with a dot becomes an `i` followed by a combining dot; every other character
becomes one character.
-/
import CodeCatalog.Text.CaseTable

set_option autoImplicit false

namespace CodeCatalog.Text

/-- The lower form that a run gives to the code point `n`, if `n` is one of its capitals. -/
def CaseRun.lower? (r : CaseRun) (n : Nat) : Option Nat :=
  if r.first ≤ n ∧ n ≤ r.last ∧ (n - r.first) % r.stride = 0 then
    some (n + r.shift).toNat
  else
    none

/-- The lower form of `n` by the first run that holds it; runs that begin past `n` are not tried. -/
def lowerCode (n : Nat) : List CaseRun → Nat
  | [] => n
  | r :: rest =>
    if n < r.first then n
    else match r.lower? n with
      | some m => m
      | none => lowerCode n rest

/-- One character in lower case, by the capitals of `runs`. -/
def lowerBy (runs : List CaseRun) (c : Char) : List Char :=
  if c = '\u0130' then ['i', '\u0307'] else [Char.ofNat (lowerCode c.toNat runs)]

/-- One character in lower case, away from its neighbours. -/
def lowerChar (c : Char) : List Char :=
  lowerBy capitalRuns c

/-- One character in lower case by the newer edition, which only adds capitals. -/
def lowerCharNewer (c : Char) : List Char :=
  let old := lowerBy capitalRuns c
  if old = [c] then lowerBy newerCapitalRuns c else old

/-- Whether a cased letter comes first once the skipped characters are left out. -/
def meetsCased (cs : List Char) : Bool :=
  match cs.dropWhile caseIgnorable.contains with
  | [] => false
  | c :: _ => casedLetters.contains c

/-- The lower case of a character between others, those before it being listed last first. -/
def lowerBetween (before : List Char) (c : Char) (after : List Char) : List Char :=
  if c = 'Σ' then
    if meetsCased before && !meetsCased after then ['ς'] else ['σ']
  else
    lowerChar c

/-- Lower case of a text whose earlier characters, last first, are `before`, put behind what they
gave, which is `done`, last first too. -/
def lowerFrom (before done : List Char) : List Char → List Char
  | [] => done.reverse
  | c :: rest => lowerFrom (c :: before) ((lowerBetween before c rest).reverse ++ done) rest

/-- A list of characters in lower case as one text. -/
def lowerChars (cs : List Char) : List Char :=
  lowerFrom [] [] cs

/-- A text in lower case as a whole, with the final sigma at the end of a word. -/
def lower (s : String) : String :=
  String.ofList (lowerChars s.toList)

/-- A text in lower case, each character on its own. -/
def lowerEach (cs : List Char) : List Char :=
  cs.flatMap lowerCharNewer

end CodeCatalog.Text
