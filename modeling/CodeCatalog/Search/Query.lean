/-
Queries: which documents a caller asks for, and the clauses that say so to the index.

A clause asks for a whole value of a field, or for words of a name: every word but the last must be
a term of the name, and the last must begin one, which is asked for by an expression. A query is the
list of its clauses, all of which must hold; without a clause it finds nothing.
-/
import CodeCatalog.Search.Document
import CodeCatalog.Search.Expression

set_option autoImplicit false

namespace CodeCatalog.Search

/-- A condition on several fields. Nothing checks what a caller gives; what counts as nothing is no
condition, and of a kind null alone is none. -/
structure Query where
  namePattern : Json.Value := .null
  /-- The kind as the caller names it, looked up when the clauses are built. -/
  kind : Json.Value := .null
  accessModifier : Json.Value := .null
  parentId : Json.Value := .null
  returnType : Json.Value := .null
  deriving Repr, DecidableEq, Inhabited

/-- A condition on one field with the value it asks for. -/
structure Filter where
  field : DocField
  value : Json.Value
  deriving Repr, DecidableEq, Inhabited

namespace Query

/-- The names of the conditions in a record. -/
def conditionNames : List String :=
  ["name_pattern", "kind", "access_modifier", "parent_id", "return_type"]

/-- The query of a record. -/
def ofRecord (record : Json.Fields) : Except Fault Query :=
  let condition := fun name => (record.get? name).getD .null
  match record.find? fun (name, _) => !conditionNames.contains name with
  | some (name, _) => .error (.unexpectedArgument "ElementQuery.__init__" name)
  | none => .ok {
      namePattern := condition "name_pattern"
      kind := condition "kind"
      accessModifier := condition "access_modifier"
      parentId := condition "parent_id"
      returnType := condition "return_type" }

/-- A query as a record. -/
def toRecord (q : Query) : Json.Value :=
  .object [("name_pattern", q.namePattern), ("kind", q.kind),
    ("access_modifier", q.accessModifier), ("parent_id", q.parentId),
    ("return_type", q.returnType)]

/-- Whether the query holds no condition. -/
def isEmpty (q : Query) : Bool :=
  q.namePattern.isNothing && q.kind = .null && q.accessModifier.isNothing &&
    q.parentId.isNothing && q.returnType.isNothing

/-- The filter of a value, if it is a condition. -/
def valueFilter (f : DocField) (v : Json.Value) : List Filter :=
  if v.isNothing then [] else [⟨f, v⟩]

/-- The filter of a kind, if there is one. -/
def kindFilter (v : Json.Value) : Except Fault (List Filter) :=
  if v = .null then .ok []
  else (kindOf v).map fun k => [⟨.elementType, .text k.name⟩]

/-- The filters of a query: name, kind, access modifier, parent, return type. -/
def filters (q : Query) : Except Fault (List Filter) := do
  let kind ← kindFilter q.kind
  return valueFilter .name q.namePattern ++ kind ++ valueFilter .accessModifier q.accessModifier ++
    valueFilter .parentId q.parentId ++ valueFilter .returnType q.returnType

end Query

/-- What a document must hold to be found. -/
inductive Clause
  /-- The field has the value as a term. -/
  | value (field : DocField) (value : String)
  /-- The name has all of the words as terms, and a term that the expression for the last one finds.
  -/
  | words (exact : List String) (last : String)
  /-- No document is found. -/
  | never
  deriving Repr, DecidableEq, Inhabited

namespace Clause

/-- The clause of a name pattern; none if the pattern has no word. -/
def ofPattern? (pattern : String) : Option Clause :=
  match (patternTerms pattern).reverse with
  | [] => none
  | last :: earlier => some (.words earlier.reverse last)

/-- The clause of a value that should be a name pattern. Only texts can be taken apart into words.
-/
def ofPatternValue : Json.Value → Except Fault (Option Clause)
  | .text pattern => .ok (ofPattern? pattern)
  | v => .error (.notText v)

/-- The clause of a filter. No field that a query asks for holds anything but texts, so a number
finds nothing; other values are never terms. -/
def ofFilter (f : Filter) : Except Fault Clause :=
  match f.field, f.value with
  | .name, v => (ofPatternValue v).map (·.getD .never)
  | field, .text s => .ok (.value field s)
  | _, .bool _ => .ok .never
  | _, .int _ => .ok .never
  | _, .real _ => .ok .never
  | field, v => .error (.noTerm field.label v)

/-- Whether a document is found by the clause. -/
def holds (c : Clause) (d : Document) : Bool :=
  match c with
  | value f v => (d.terms f).contains v
  | words exact last =>
    let terms := d.terms .name
    exact.all terms.contains && terms.any (describes (prefixExpression last))
  | never => false

/-- The words of a name that the clause asks for as a whole; only they rank the documents. -/
def rankingWords : Clause → List String
  | words exact _ => exact
  | _ => []

end Clause

/-- Whether a document is found by a query. -/
def finds (clauses : List Clause) (d : Document) : Bool :=
  !clauses.isEmpty && clauses.all (·.holds d)

end CodeCatalog.Search
