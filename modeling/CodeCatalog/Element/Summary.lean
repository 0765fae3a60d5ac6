/-
Summaries: what the search index gives back of an element. Documentation, modifiers and parameters
are not part of it.
-/
import CodeCatalog.Element.Record

set_option autoImplicit false

namespace CodeCatalog

open Json

/-- The part of an element that the search index keeps. -/
structure Summary where
  id : String
  name : String
  fullName : String
  kind : Kind
  parentId : Option String
  accessModifier : Option String
  filePath : String
  lineNumber : Int
  returnType : Option String
  contentHash : String
  deriving Repr, DecidableEq, Inhabited

namespace Summary

/-- A summary as a record. -/
def toRecord (s : Summary) : Value :=
  .object [("id", .text s.id), ("name", .text s.name), ("full_name", .text s.fullName),
    ("kind", .text s.kind.name), ("parent_id", .optionalText s.parentId),
    ("access_modifier", .optionalText s.accessModifier), ("file_path", .text s.filePath),
    ("line_number", .int s.lineNumber), ("return_type", .optionalText s.returnType),
    ("content_hash", .text s.contentHash)]

/-- Summaries in the order of their ids, those of one id in the order of full names. -/
def sort (ss : List Summary) : List Summary :=
  ss.mergeSort fun a b => a.id < b.id || (a.id = b.id && a.fullName ≤ b.fullName)

/-- The summary of an element. Empty access modifiers and return types count as absent. -/
def ofElement (e : Element) : Summary where
  id := e.id
  name := e.name
  fullName := e.fullName
  kind := e.kind
  parentId := e.parentId
  accessModifier := if e.accessModifier = "" then none else some e.accessModifier
  filePath := e.location.filePath
  lineNumber := e.location.startLine
  returnType := e.returnType?
  contentHash := e.contentHash

end Summary

end CodeCatalog
