import CellFlow.Data.Fault
import CellFlow.Text.LetterCase
import CellFlow.Text.Search

/-!
Paths of files, in their normal form: neither empty parts nor parts that stay in place.
A part that leads to the folder above is kept.
-/

set_option autoImplicit false

namespace CellFlow

/-- The slashes that the path starts with, and the parts between slashes. -/
structure FilePath where
  root : String
  parts : List String
  deriving DecidableEq, Repr, Inhabited

namespace FilePath

/-- Exactly two slashes in front are kept; more count as one. -/
def rootOf : List Char → String
  | '/' :: '/' :: '/' :: _ => "/"
  | '/' :: '/' :: _ => "//"
  | '/' :: _ => "/"
  | _ => ""

def isPlain (part : String) : Bool := part ≠ "" ∧ part ≠ "."

def partsOf (s : List Char) : List String :=
  ((Text.splitOn '/' s).map String.ofList).filter isPlain

def ofText (s : String) : FilePath := ⟨rootOf s.toList, partsOf s.toList⟩

def text (p : FilePath) : String :=
  if p.root.isEmpty && p.parts.isEmpty then "." else p.root ++ "/".intercalate p.parts

def join (p : FilePath) (s : String) : FilePath :=
  let q := ofText s
  if q.root.isEmpty then ⟨p.root, p.parts ++ q.parts⟩ else q

def name (p : FilePath) : String := p.parts.getLastD ""

/-- The last point of a name, if it neither starts nor ends it: what is before and behind it. -/
def splitName? (name : String) : Option (String × String) :=
  match Text.splitLast? ['.'] name.toList with
  | some (before, behind) =>
    if before.isEmpty || behind.isEmpty then none
    else some (String.ofList before, String.ofList ('.' :: behind))
  | none => none

def suffix (p : FilePath) : String := ((splitName? p.name).map (·.2)).getD ""

def stem (p : FilePath) : String := ((splitName? p.name).map (·.1)).getD p.name

def ofValue : Value → Except Fault FilePath
  | .text s => .ok (ofText s)
  | v => .error (.notPath v.kind)

end FilePath

end CellFlow
