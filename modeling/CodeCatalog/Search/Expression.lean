/-
Regular expressions, as far as searching for the beginning of a term needs them.

The terms that begin with a word are asked for by an expression: the word, with a backslash before
each character that could be taken for an operator, then a dot and a star. Read here are the
expressions that have no other operators than the dot and the star. An expression finds a term if it
describes the whole of it.
-/
import CodeCatalog.Search.Term

set_option autoImplicit false

namespace CodeCatalog.Search

/-- The characters that do not stand for themselves in an expression. -/
def operators : List Char :=
  ['\\', '.', '+', '*', '?', '(', ')', '|', '[', ']', '{', '}', '^', '$', '#', '&', '-', '~']

/-- The characters that are given a backslash: operators and white space. -/
def escapedChars : List Char :=
  operators ++ [' ', '\t', '\n', '\r', '\x0b', '\x0c']

/-- A text in which no character is taken for an operator. -/
def escape (text : List Char) : List Char :=
  text.flatMap fun c => if c ∈ escapedChars then ['\\', c] else [c]

/-- The expression for the terms that begin with a word. -/
def prefixExpression (word : String) : List Char :=
  escape word.toList ++ ['.', '*']

/-! ## Meaning -/

/-- What one character of a term can be. -/
inductive Atom
  | char (c : Char)
  /-- Any character that does not end a line. -/
  | any
  deriving Repr, DecidableEq

/-- One part of an expression: a character of a term, or any number of them. -/
structure Piece where
  atom : Atom
  many : Bool := false
  deriving Repr, DecidableEq

/-- Whether a character is what it can be. -/
def Atom.accepts : Atom → Char → Bool
  | char a, c => c = a
  | any, c => c ≠ '\n'

/-- The parts of an expression, put behind those of `done` (last first); nothing if it has other
operators. A backslash takes the meaning from an operator, and stands before nothing else. -/
def readPieces : (done : List Piece) → List Char → Option (List Piece)
  | done, [] => some done.reverse
  | _, ['\\'] => none
  | done, '\\' :: c :: rest =>
    if c ∈ operators then readPieces (⟨.char c, false⟩ :: done) rest else none
  | done, '.' :: rest => readPieces (⟨.any, false⟩ :: done) rest
  | done, '*' :: rest =>
    match done with
    | piece :: done => readPieces ({ piece with many := true } :: done) rest
    | [] => none
  | done, c :: rest => if c ∈ operators then none else readPieces (⟨.char c, false⟩ :: done) rest

/-- Whether parts describe the whole of a term. -/
def spells : List Piece → List Char → Bool
  | [], term => term.isEmpty
  | piece :: pieces, term =>
    if piece.many then
      (List.range (term.length + 1)).any fun n =>
        (term.take n).all piece.atom.accepts && spells pieces (term.drop n)
    else match term with
      | [] => false
      | c :: term => piece.atom.accepts c && spells pieces term

/-- Whether an expression finds a term. -/
def describes (expression : List Char) (term : String) : Bool :=
  (readPieces [] expression).any (spells · term.toList)

end CodeCatalog.Search
