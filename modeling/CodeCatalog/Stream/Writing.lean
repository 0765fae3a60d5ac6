/-
Writing an element stream: the JSON record of each element on a line of its own.
-/
import CodeCatalog.Element.Record
import CodeCatalog.Storage.Tree
import CodeCatalog.Store.Basic

set_option autoImplicit false

namespace CodeCatalog.Stream

open Json

/-- The line of an element. -/
def elementLine (e : Element) : List Char :=
  renderChars e.toRecord ++ ['\n']

/-- The text of elements. -/
def render (es : List Element) : List Char :=
  es.flatMap elementLine

/-- What was written: the lines, their number, and the failure that ended the writing early. -/
structure Writing where
  text : List Char := []
  count : Nat := 0
  failure : Option Failure := none
  deriving Repr, DecidableEq

/-- Write elements as they come, up to the first that is absent or fails. -/
def write : Feed → Writing
  | [] => {}
  | .error f :: _ => { failure := some f }
  | .ok none :: _ => { failure := some (.fault .notAnElement) }
  | .ok (some e) :: rest =>
    let w := write rest
    { w with text := elementLine e ++ w.text, count := w.count + 1 }

/-- Write elements to a file, whose folder is created if need be, and tell how many there are. What
was written before a failure stays. -/
def writeAt {α : Type} (tree : Tree α) (folder : Place) (path : Path) (es : Feed) :
    Except Failure Nat × Tree α :=
  let w := write es
  match tree.putFileAt folder path (String.ofList w.text).toUTF8 with
  | .error f => (.error (.fault (.file f)), tree)
  | .ok tree => match w.failure with
    | some f => (.error f, tree)
    | none => (.ok w.count, tree)

end CodeCatalog.Stream
