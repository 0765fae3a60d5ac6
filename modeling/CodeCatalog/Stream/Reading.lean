/-
Reading an element stream: one JSON record per line.

Blank lines count as lines and are otherwise ignored. A line that is no JSON, or whose record
describes no element, is skipped with a warning. A whole number with too many digits and values that
nest too deep end the reading, as does a text that is not valid UTF-8.
-/
import CodeCatalog.Element.Record
import CodeCatalog.Json.Reader
import CodeCatalog.Log.Event
import CodeCatalog.Storage.Tree
import CodeCatalog.Stream.Decoding

set_option autoImplicit false

namespace CodeCatalog.Stream

open Json Log

/-- What a line that is not blank holds. -/
inductive Line
  | element (e : Element)
  /-- No element, for the reason given. -/
  | skipped (reason : String)
  /-- A line that ends the reading. -/
  | fatal (fault : Fault)
  deriving Repr, DecidableEq

/-- What a line holds; nothing if it is blank. -/
def readLine (freshId : String) (line : List Char) : Option Line :=
  if line.all Text.isBlank then none
  else some <| match Json.readChars line with
    | .error (.malformed m) => .skipped ("invalid JSON: " ++ m.message)
    | .error (.longWhole digits) => .fatal (.longWhole digits)
    | .error .tooDeep => .fatal .tooDeep
    | .ok record =>
      match Element.ofRecord freshId record with
      | .ok e => .element e
      | .error e => .skipped e.message

/-- What was read: the elements, the number of skipped lines, the events, and the fault that ended
the reading early, if there was one. -/
structure Reading where
  elements : List Element := []
  skipped : Nat := 0
  events : List Event := []
  fault : Option Fault := none
  deriving Repr, DecidableEq

/-- The warning about a skipped line. -/
def skippedEvent (path : String) (number : Nat) (reason : String) : Event :=
  ⟨.warning, "element_record_skipped",
    [("path", .text path), ("line", .int number), ("error", .text reason)]⟩

/-- The event after the last line. -/
def loadedEvent (path : String) (count skipped : Nat) : Event :=
  ⟨.info, "element_stream_loaded",
    [("path", .text path), ("count", .int count), ("skipped", .int skipped)]⟩

/-- Read lines of which the first has a number. An element without an id takes the fresh id of its
line's number. -/
def readLines (path : String) (fresh : Nat → String) : (number : Nat) → List (List Char) → Reading
  | _, [] => {}
  | number, line :: rest =>
    match readLine (fresh number) line with
    | none => readLines path fresh (number + 1) rest
    | some (.element e) =>
      let r := readLines path fresh (number + 1) rest
      { r with elements := e :: r.elements }
    | some (.skipped reason) =>
      let r := readLines path fresh (number + 1) rest
      { r with skipped := r.skipped + 1, events := skippedEvent path number reason :: r.events }
    | some (.fatal f) => { fault := some f }

/-- Read a whole text, telling the totals at its end. -/
def readText (path : String) (fresh : Nat → String) (text : List Char) : Reading :=
  let r := readLines path fresh 1 (Text.lines text)
  match r.fault with
  | some _ => r
  | none => { r with events := r.events ++ [loadedEvent path r.elements.length r.skipped] }

/-! ## Bytes -/

/-- Read bytes. Where they are not valid UTF-8, the lines that end before this is noticed are
read. -/
def readBytes (path : String) (fresh : Nat → String) (bytes : ByteArray) : Reading :=
  match decode? bytes with
  | some text => readText path fresh text
  | none =>
    let r := readLines path fresh 1 (endedLines (validStart bytes))
    { r with fault := r.fault <|> some .badEncoding }

/-! ## Files -/

/-- The path of a stream; an empty text is none. -/
def pathOf (s : String) : Except CatalogError Path :=
  if s = "" then .error (.missingArgument "path") else .ok (.ofText s)

/-- Read a file. -/
def readAt {α : Type} (tree : Tree α) (folder : Place) (path : Path) (fresh : Nat → String) :
    Except FileFault Reading :=
  (tree.bytesAt folder path).map (readBytes path.text fresh)

end CodeCatalog.Stream
