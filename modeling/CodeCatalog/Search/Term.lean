/-
Terms of names and of patterns.

Both are the maximal runs of word characters, without those of `maxTermBytes` bytes or more, in
lower case. They differ in the edition of the character standard and in the lower case: a pattern's
words are put into lower case as a whole, an indexed name's character by character. So the terms of
a pattern are not always those of the same text in the index.
-/
import CodeCatalog.Text.Case
import CodeCatalog.Text.Cut
import CodeCatalog.Text.LetterTable

set_option autoImplicit false

namespace CodeCatalog.Search

/-- Words of this many bytes of UTF-8 and more are left out. -/
def maxTermBytes : Nat := 40

/-- The number of bytes of characters in UTF-8. -/
def byteLength (cs : List Char) : Nat :=
  cs.foldr (fun c rest => c.utf8Size + rest) 0

/-- Whether a word is short enough to be a term. -/
def isShort (word : List Char) : Bool :=
  byteLength word < maxTermBytes

/-- The terms of a search pattern, in order. -/
def patternTerms (text : String) : List String :=
  ((Text.runs Text.patternLetters.contains text.toList).filter isShort).map fun w =>
    String.ofList (Text.lowerChars w)

/-- The terms under which a name is indexed, in order. -/
def indexTerms (text : String) : List String :=
  ((Text.runs Text.indexLetters.contains text.toList).filter isShort).map fun w =>
    String.ofList (Text.lowerEach w)

end CodeCatalog.Search
