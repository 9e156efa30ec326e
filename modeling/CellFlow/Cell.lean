import CellFlow.Data.Access

/-!
Notebook cells. Only the position is checked when a cell is read: the source may be text,
a list of lines or anything else, and outputs, label and execution count are kept as
they were recorded.
-/

set_option autoImplicit false

namespace CellFlow

structure Cell where
  position : Int
  source : Value
  outputs : List Value := []
  executionCount : Value := .null
  label : Value := .null
  deriving Inhabited, Repr

namespace Cell

def id (c : Cell) : String := toString c.position

def withLabel (c : Cell) (label : Value) : Cell := { c with label }

def same (c d : Cell) : Bool := c.position == d.position

/-- The source when it is text, and no text otherwise. -/
def sourceText (c : Cell) : String :=
  match c.source with
  | .text s => s
  | _ => ""

def toValue (c : Cell) : Value :=
  .object [("position", .int c.position), ("source", c.source), ("outputs", .list c.outputs),
    ("execution_count", c.executionCount), ("label", c.label)]

def ofValue (v : Value) : Except Fault Cell := do
  let position ← (← v.field "position").toInteger
  let fs ← v.fields
  let outputs ← (Fields.getD fs "outputs" (.list [])).elements
  return {
    position
    source := Fields.getD fs "source" (.text "")
    outputs
    executionCount := Fields.getD fs "execution_count" .null
    label := Fields.getD fs "label" .null }

@[simp] theorem position_withLabel (c : Cell) (label : Value) :
    (c.withLabel label).position = c.position := rfl

@[simp] theorem id_withLabel (c : Cell) (label : Value) : (c.withLabel label).id = c.id := rfl

end Cell

end CellFlow
