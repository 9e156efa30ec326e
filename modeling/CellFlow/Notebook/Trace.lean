import CellFlow.Cell
import CellFlow.Number.Literal
import CellFlow.Text.Blank
import CellFlow.Text.Records

/-!
Traces of executed cells: a header, and a row for each cell with its source and the number
of its execution.
-/

set_option autoImplicit false

namespace CellFlow.Notebook.Trace

def executionColumn : String := "execution_number"

def sourceColumn : String := "cell_content"

def missingColumns (header : Text.FieldRow) : List String :=
  [executionColumn, sourceColumn].filter fun column => !header.contains column

def lastColumn? (name : String) : Text.FieldRow → Option Nat
  | [] => none
  | h :: header =>
    match lastColumn? name header with
    | some i => some (i + 1)
    | none => if h = name then some 0 else none

def fieldOf? (header row : Text.FieldRow) (name : String) : Option String := do
  row[← lastColumn? name header]?

/-- The execution count in a field: a number is cut towards zero, and null stands for
anything that is no number. -/
def executionCount (field : Option String) : Except Fault Value :=
  match field with
  | none => .ok .null
  | some s =>
    match Number.readReal s.toList with
    | some x => if x.isNaN then .ok .null else (Value.float x).toInteger.map .int
    | none => .ok .null

/-- A cell for each row that has a source, in their order, numbered on from a position. -/
def cellsFrom (header : Text.FieldRow) : Int → List Text.FieldRow → Except Fault (List Cell)
  | _, [] => .ok []
  | position, row :: rows => do
    match fieldOf? header row sourceColumn with
    | none => cellsFrom header position rows
    | some source =>
      let executionCount ← executionCount (fieldOf? header row executionColumn)
      let cells ← cellsFrom header (position + 1) rows
      return { position, source := .text source, executionCount } :: cells

def cells (header : Text.FieldRow) (rows : List Text.FieldRow) : Except Fault (List Cell) :=
  cellsFrom header 1 rows

end CellFlow.Notebook.Trace
