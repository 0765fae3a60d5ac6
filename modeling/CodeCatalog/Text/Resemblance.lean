/-
How much two texts resemble each other.

Their longest common run is matched first, the earliest one if there are several, and then what
stands before and behind it in the same way. The resemblance is the share of matched characters in
both texts together.
-/

set_option autoImplicit false

namespace CodeCatalog.Text

/-- How many characters two texts share at their beginnings. -/
def commonLength : List Char → List Char → Nat
  | a :: as, b :: bs => if a = b then commonLength as bs + 1 else 0
  | _, _ => 0

/-- A common run: its length and where it begins in each text. -/
structure Run where
  length : Nat
  left : Nat
  right : Nat

/-- The longer of two runs, the first if they are equally long. -/
def Run.longer (r s : Run) : Run :=
  if s.length > r.length then s else r

/-- The longest common run of two texts; it has no length if they share no character. -/
def longestRun (as bs : List Char) : Run :=
  let starts := (List.range as.length).flatMap fun i => (List.range bs.length).map fun j => (i, j)
  (starts.map fun (i, j) => ⟨commonLength (as.drop i) (bs.drop j), i, j⟩).foldl Run.longer ⟨0, 0, 0⟩

/-- How many characters are matched. Each match takes one character of the first text at least,
which bounds the matches by `fuel`. -/
def matched : (fuel : Nat) → List Char → List Char → Nat
  | 0, _, _ => 0
  | fuel + 1, as, bs =>
    let r := longestRun as bs
    if r.length = 0 then 0
    else
      matched fuel (as.take r.left) (bs.take r.right) + r.length +
        matched fuel (as.drop (r.left + r.length)) (bs.drop (r.right + r.length))

/-- A text with the matched characters, counted in both, and all characters of the two texts. -/
structure Likeness where
  text : String
  shared : Nat
  total : Nat

/-- How a text resembles a word. -/
def Likeness.of (word text : String) : Likeness :=
  let m := matched (text.length + 1) text.toList word.toList
  ⟨text, 2 * m, text.length + word.length⟩

/-- Whether three fifths of the characters are matched. -/
def Likeness.isClose (l : Likeness) : Bool :=
  5 * l.shared ≥ 3 * l.total

/-- Whether a text resembles the word more than another one does; of two equal ones the later in the
order of texts comes first. -/
def Likeness.before (l m : Likeness) : Bool :=
  let a := l.shared * m.total
  let b := m.shared * l.total
  a > b || (a = b && m.text ≤ l.text)

/-- The three texts that resemble a word most, of those that are close to it, in order. -/
def closest (word : String) (texts : List String) : List String :=
  let close := (texts.map (Likeness.of word)).filter Likeness.isClose
  (((close.mergeSort Likeness.before).take 3).map Likeness.text).mergeSort (· ≤ ·)

end CodeCatalog.Text
