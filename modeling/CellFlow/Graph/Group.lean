import CellFlow.Cell
import CellFlow.Failure

/-!
Groups: labelled ranges of cell positions. Where groups overlap, the first one that
contains a position counts.
-/

set_option autoImplicit false

namespace CellFlow

structure Group where
  label : String
  first : Int
  last : Int
  first_le_last : first ≤ last
  deriving DecidableEq, Repr

namespace Group

def contains (g : Group) (position : Int) : Bool := g.first ≤ position && position ≤ g.last

def size (g : Group) : Int := g.last - g.first + 1

def toFields (g : Group) : Fields :=
  [("label", .text g.label), ("cell_start", .int g.first), ("cell_end", .int g.last)]

def make (label : String) (first last : Int) : Outcome Group :=
  if h : first ≤ last then .ok ⟨label, first, last, h⟩
  else .error (.backwardGroup label first last)

def ofRecord (record : Value) : Outcome Group := do
  let label ← record.field "label"
  let first ← (← record.field "cell_start").toInteger
  let last ← (← record.field "cell_end").toInteger
  make label.shown first last

def isRecordFailure (f : Failure) : Bool :=
  f.kindName = "KeyError" ∨ f.kindName = "TypeError" ∨ f.isValueFailure

/-- The group of a record; a record that describes none is named in the failure. -/
def read (record : Value) : Outcome Group :=
  match ofRecord record with
  | .ok g => .ok g
  | .error f => .error (if isRecordFailure f then .invalidGroup record f else f)

def readAll (records : Value) : Outcome (List Group) := do
  let rs ← records.elements
  rs.mapM read

/-- The first group that contains a position, and its index. -/
def find? (groups : List Group) (position : Int) : Option (Group × Nat) :=
  groups.zipIdx.find? fun p => p.1.contains position

def labelCell (groups : List Group) (c : Cell) : Cell :=
  match find? groups c.position with
  | some (g, _) => c.withLabel (.text g.label)
  | none => c

def labelCells (groups : List Group) (cells : List Cell) : List Cell :=
  cells.map (labelCell groups)

end Group

end CellFlow
