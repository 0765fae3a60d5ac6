/-
JSON values. Whole numbers are unbounded and kept apart from floating-point ones, and the fields of
an object keep their order.
-/
import CodeCatalog.Decimal.Binary64

set_option autoImplicit false

namespace CodeCatalog.Json

/-- A JSON value. -/
inductive Value
  | null
  | bool (b : Bool)
  | int (n : Int)
  | real (x : Binary64)
  | text (s : String)
  | list (items : List Value)
  | object (fields : List (String × Value))
  deriving Repr, Inhabited

/-- The fields of an object. -/
abbrev Fields := List (String × Value)

namespace Value

/-! ## Equality -/

mutual

/-- Equality of values is decidable. -/
def decEq : (a b : Value) → Decidable (a = b)
  | .null, .null => .isTrue rfl
  | .bool a, .bool b =>
    if h : a = b then .isTrue (by rw [h]) else .isFalse (by intro e; injection e; contradiction)
  | .int a, .int b =>
    if h : a = b then .isTrue (by rw [h]) else .isFalse (by intro e; injection e; contradiction)
  | .real a, .real b =>
    if h : a = b then .isTrue (by rw [h]) else .isFalse (by intro e; injection e; contradiction)
  | .text a, .text b =>
    if h : a = b then .isTrue (by rw [h]) else .isFalse (by intro e; injection e; contradiction)
  | .list a, .list b =>
    match decEqItems a b with
    | .isTrue h => .isTrue (by rw [h])
    | .isFalse h => .isFalse (by intro e; injection e; contradiction)
  | .object a, .object b =>
    match decEqFields a b with
    | .isTrue h => .isTrue (by rw [h])
    | .isFalse h => .isFalse (by intro e; injection e; contradiction)
  | .null, .bool _ | .null, .int _ | .null, .real _ | .null, .text _ | .null, .list _
  | .null, .object _ | .bool _, .null | .bool _, .int _ | .bool _, .real _ | .bool _, .text _
  | .bool _, .list _ | .bool _, .object _ | .int _, .null | .int _, .bool _ | .int _, .real _
  | .int _, .text _ | .int _, .list _ | .int _, .object _ | .real _, .null | .real _, .bool _
  | .real _, .int _ | .real _, .text _ | .real _, .list _ | .real _, .object _ | .text _, .null
  | .text _, .bool _ | .text _, .int _ | .text _, .real _ | .text _, .list _ | .text _, .object _
  | .list _, .null | .list _, .bool _ | .list _, .int _ | .list _, .real _ | .list _, .text _
  | .list _, .object _ | .object _, .null | .object _, .bool _ | .object _, .int _
  | .object _, .real _ | .object _, .text _ | .object _, .list _ => .isFalse nofun

/-- Equality of lists of values is decidable. -/
def decEqItems : (a b : List Value) → Decidable (a = b)
  | [], [] => .isTrue rfl
  | [], _ :: _ => .isFalse nofun
  | _ :: _, [] => .isFalse nofun
  | x :: xs, y :: ys =>
    match decEq x y, decEqItems xs ys with
    | .isTrue h, .isTrue t => .isTrue (by rw [h, t])
    | .isFalse h, _ => .isFalse (by intro e; injection e; contradiction)
    | _, .isFalse h => .isFalse (by intro e; injection e; contradiction)

/-- Equality of fields is decidable. -/
def decEqFields : (a b : List (String × Value)) → Decidable (a = b)
  | [], [] => .isTrue rfl
  | [], _ :: _ => .isFalse nofun
  | _ :: _, [] => .isFalse nofun
  | (k, x) :: xs, (l, y) :: ys =>
    if hk : k = l then
      match decEq x y, decEqFields xs ys with
      | .isTrue h, .isTrue t => .isTrue (by rw [hk, h, t])
      | .isFalse h, _ => .isFalse (by
          intro e; injection e with e _; injection e; contradiction)
      | _, .isFalse h => .isFalse (by intro e; injection e; contradiction)
    else .isFalse (by intro e; injection e with e _; injection e; contradiction)

end

instance : DecidableEq Value := decEq

/-! ## Access -/

/-- The word for the kind of a value. -/
def kindName : Value → String
  | .null => "NoneType"
  | .bool _ => "bool"
  | .int _ => "int"
  | .real _ => "float"
  | .text _ => "str"
  | .list _ => "list"
  | .object _ => "dict"

/-- Whether a value counts as nothing: null, false, zero, or empty. -/
def isNothing : Value → Bool
  | .null => true
  | .bool b => !b
  | .int n => n = 0
  | .real x => match x with
    | .finite _ u => u = 0
    | _ => false
  | .text s => s = ""
  | .list items => items.isEmpty
  | .object fields => fields.isEmpty

/-- The field of an object. -/
def get? (key : String) : Value → Option Value
  | .object fields => (fields.find? (·.1 = key)).map (·.2)
  | _ => none

end Value

namespace Fields

/-- The value under a key. -/
def get? (fields : Fields) (key : String) : Option Value :=
  (fields.find? (·.1 = key)).map (·.2)

/-- The fields with `key` bound to `value`: in its old place if it has one, otherwise at the end. -/
def put (fields : Fields) (key : String) (value : Value) : Fields :=
  if fields.any (·.1 = key) then fields.map fun f => if f.1 = key then (key, value) else f
  else fields ++ [(key, value)]

/-- The fields without `key`. -/
def erase (fields : Fields) (key : String) : Fields :=
  fields.filter (·.1 ≠ key)

/-- Later fields put onto earlier ones. -/
def union (fields more : Fields) : Fields :=
  more.foldl (fun acc f => put acc f.1 f.2) fields

end Fields

end CodeCatalog.Json
