/-
Paths of files and folders, as text and as parts.

A path is read by cutting it at slashes; empty parts and single dots are dropped, double dots are
kept. Exactly two slashes at the start are kept as they are, any other number of them counts as one.
-/
import CodeCatalog.Failure
import CodeCatalog.Text.Cut

set_option autoImplicit false

namespace CodeCatalog

/-- A path: the slashes it starts with, and its parts. -/
structure Path where
  slashes : Nat
  parts : List String
  deriving Repr, DecidableEq, Inhabited

namespace Path

/-- The parts of a text that count. -/
def partsOf (text : List Char) : List String :=
  ((Text.cutAt (· = '/') text).map String.ofList).filter fun p => p ≠ "" ∧ p ≠ "."

/-- The path that a text writes. -/
def ofText (s : String) : Path :=
  let lead := (s.toList.takeWhile (· = '/')).length
  ⟨if lead = 2 then 2 else min lead 1, partsOf s.toList⟩

/-- The text of a path; the empty path is a single dot. -/
def text (p : Path) : String :=
  let body := "/".intercalate p.parts
  if p.slashes = 0 ∧ p.parts.isEmpty then "."
  else String.ofList (List.replicate p.slashes '/') ++ body

/-- Whether the path starts at the root. -/
def isAbsolute (p : Path) : Bool :=
  p.slashes ≠ 0

/-- A path below another one. An absolute path stands for itself. -/
def join (p q : Path) : Path :=
  if q.isAbsolute then q else ⟨p.slashes, p.parts ++ q.parts⟩

/-- The path with one more part. -/
def child (p : Path) (part : String) : Path :=
  ⟨p.slashes, p.parts ++ [part]⟩

/-- The path without its last part. -/
def parent (p : Path) : Path :=
  ⟨p.slashes, p.parts.dropLast⟩

/-- The parts with each double dot and the part before it taken out. -/
def collapse (parts : List String) : List String :=
  (parts.foldl (fun acc p => if p = ".." then acc.drop 1 else p :: acc) []).reverse

/-- The absolute path without double dots, seen from a working folder. -/
def resolve (folder p : Path) : Path :=
  let q := folder.join p
  ⟨q.slashes, collapse q.parts⟩

/-! ## Home folders -/

/-- The home folder of the user who runs the program, and those of other users. -/
structure Homes where
  own : String
  others : List (String × String) := []
  deriving Repr, DecidableEq

/-- The home folder named by a part that begins with a tilde. -/
def Homes.find? (h : Homes) (part : String) : Option String :=
  if part = "~" then some h.own
  else (h.others.find? (fun u => "~" ++ u.1 = part)).map (·.2)

/-- A text without the slashes at its end; of nothing but slashes, one stays. -/
def withoutEndSlashes (s : String) : String :=
  match s.toList.reverse.dropWhile (· = '/') with
  | [] => "/"
  | cs => String.ofList cs.reverse

/-- The path with a home folder in place of a first part that begins with a tilde. A home folder
that begins with a tilde itself is none. -/
def expandHome (h : Homes) (p : Path) : Except Fault Path :=
  match p.isAbsolute, p.parts with
  | false, first :: rest =>
    if first.toList.head? = some '~' then
      match h.find? first with
      | some home =>
        if home.toList.head? = some '~' then .error .noHome
        else .ok ((ofText (withoutEndSlashes home)).join ⟨0, rest⟩)
      | none => .error .noHome
    else .ok p
  | _, _ => .ok p

end Path

end CodeCatalog
