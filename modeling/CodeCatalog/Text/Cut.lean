/-
Text cut at characters of a class.
-/

set_option autoImplicit false

namespace CodeCatalog.Text

/-- Put a character in front of pieces: a separator begins a new piece, anything else joins the
first one. -/
def consPiece (separator : Char → Bool) (c : Char) (pieces : List (List Char)) : List (List Char) :=
  if separator c then [] :: pieces
  else match pieces with
    | [] => [[c]]
    | piece :: rest => (c :: piece) :: rest

/-- The pieces of a text between the separators, empty ones included. -/
def cutAt (separator : Char → Bool) (text : List Char) : List (List Char) :=
  text.foldr (consPiece separator) [[]]

/-- The maximal runs of characters of a class. -/
def runs (member : Char → Bool) (text : List Char) : List (List Char) :=
  (cutAt (fun c => !member c) text).filter (!·.isEmpty)

end CodeCatalog.Text
