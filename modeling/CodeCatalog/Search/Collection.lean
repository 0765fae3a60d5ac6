/-
Collections of documents, the changes that a commit makes to them, and the search in them.

A document that is removed no longer matches, but its name still counts in the statistics that rank
documents, until the collection is cleared.
-/
import CodeCatalog.Search.Query

set_option autoImplicit false

namespace CodeCatalog.Search

/-- The documents of an index, in the order in which they were added. -/
structure Collection where
  live : List Document := []
  /-- Removed documents, which still count in the statistics. -/
  removed : List Document := []
  deriving Repr, DecidableEq, Inhabited

/-- A change that waits for the next commit. -/
inductive Change
  | clear
  /-- Remove every document with this id. -/
  | remove (id : String)
  | add (d : Document)
  deriving Repr, DecidableEq

namespace Collection

/-- Whether a document is found under an id. -/
def hasId (id : String) (d : Document) : Bool :=
  (d.terms .id).contains id

/-- The collection after a change. -/
def change (c : Collection) : Change → Collection
  | .clear => {}
  | .remove id =>
    { live := c.live.filter (!hasId id ·), removed := c.removed ++ c.live.filter (hasId id ·) }
  | .add d => { c with live := c.live ++ [d] }

/-- The collection after changes, one after another. -/
def changeAll (c : Collection) (changes : List Change) : Collection :=
  changes.foldl change c

/-- All documents that count in the statistics. -/
def counted (c : Collection) : List Document :=
  c.live ++ c.removed

/-! ## Ranking

A word `t` adds `idf · 2.2 · tf / (tf + 1.2 · (0.25 + 0.75 · len / avg))` to the score of a
document, where `tf` counts `t` in the name, `len` is the number of the name's terms and `avg` their
mean, and `idf` is `ln (1 + (N - n + 0.5) / (n + 0.5))` for `N` documents of which `n` have the
word. The index keeps a length in one byte, so `len` is rounded down: what is beyond 24 keeps its
four leading binary places. Scores are whole numbers of `1 / scoreScale`. -/

/-- The unit of scores and logarithms: their number in one. -/
def scoreScale : Nat := 1000000000000

/-- The terms of the series `z + z³/3 + z⁵/5 + …` that follow one, each in units. -/
def seriesTail (z2 : Nat) : (terms : Nat) → (power : Nat) → (odd : Nat) → Nat
  | 0, _, _ => 0
  | terms + 1, power, odd =>
    power / odd + seriesTail z2 terms (power * z2 / scoreScale) (odd + 2)

/-- The natural logarithm of `num / den`, at least one, for quotients below two. -/
def logBelowTwo (num den : Nat) : Nat :=
  let z := scoreScale * (num - den) / (num + den)
  2 * seriesTail (z * z / scoreScale) 20 z 1

/-- The natural logarithm of `num / den`, at least one, in units. -/
def logQuotient (num den : Nat) : Nat :=
  let k := (num / den).log2
  k * 693147180560 + logBelowTwo num (den * Nat.pow 2 k)

/-- How much a word tells, in a collection of `total` documents of which `having` have it. -/
def wordWeight (total having : Nat) : Nat :=
  logQuotient (2 * total + 2) (2 * having + 1)

/-- The longest name whose length is kept with all that is beyond it rounded. -/
def exactLength : Nat := 24

/-- A length as the index keeps it. -/
def keptLength (n : Nat) : Nat :=
  if n < exactLength then n
  else
    let beyond := n - exactLength
    let step := Nat.pow 2 (beyond.log2 - 3)
    exactLength + beyond / step * step

/-- What a word adds to the score of a document with these name terms. `terms` and `total` are the
number of name terms and of documents in the whole collection. -/
def wordScore (weight terms total : Nat) (name : List String) (word : String) : Nat :=
  let count := name.count word
  weight * 22 * count * terms /
    (10 * count * terms + 3 * terms + 9 * keptLength name.length * total)

/-- What the ranking needs to know about a collection: the number of documents and of their name
terms, and the weight of each word that is asked for. -/
structure Statistics where
  total : Nat
  terms : Nat
  weights : List (String × Nat)
  deriving Repr, DecidableEq

/-- Numbers added up. -/
def sumOf (ns : List Nat) : Nat :=
  ns.foldr (fun n rest => n + rest) 0

/-- The statistics of a collection for some words. -/
def statistics (c : Collection) (words : List String) : Statistics :=
  let names := c.counted.map (·.terms .name)
  { total := names.length
    terms := sumOf (names.map List.length)
    weights := words.map fun w => (w, wordWeight names.length (names.countP (·.contains w))) }

/-- The score of a document. -/
def Statistics.score (s : Statistics) (d : Document) : Nat :=
  let name := d.terms .name
  sumOf (s.weights.map fun (word, weight) => wordScore weight s.terms s.total name word)

/-- Documents by falling score, those of one score in their order. -/
def ranked (c : Collection) (words : List String) (ds : List Document) : List Document :=
  if words.isEmpty then ds
  else
    let s := c.statistics words
    ((ds.map fun d => (s.score d, d)).mergeSort fun a b => a.1 ≥ b.1).map (·.2)

/-! ## Search -/

/-- The documents that a query finds, best first, and at most `limit` of them. -/
def search (c : Collection) (clauses : List Clause) (limit : Nat) : List Document :=
  (c.ranked (clauses.flatMap Clause.rankingWords) (c.live.filter (finds clauses))).take limit

end Collection

end CodeCatalog.Search
