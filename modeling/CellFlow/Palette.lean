import CellFlow.Cell
import CellFlow.Settings.Sections

/-!
Colors for labels: distinct labels take the colors of a palette in turn, in the order in
which the cells show them, and start over when the palette runs out.
-/

set_option autoImplicit false

namespace CellFlow

abbrev Colors := Fields

namespace Colors

def find? (colors : Colors) (label : Value) : Option Value :=
  label.key?.bind fun k => Fields.get? colors k

end Colors

namespace Palette

def standard : Value := .list (defaultPalette.map .text)

def orStandard (palette : Value) : Value := if palette.truthy then palette else standard

def colorAt (palette : Value) (index : Nat) : Except Fault Value := do
  let n ← palette.length
  match palette with
  | .object _ => throw (.missingField (.int (index % n)))
  | _ =>
    let xs ← palette.elements
    return xs.getD (index % n) .null

/-- Adds the label of a cell, unless the cell has none or the label is there already. -/
def addLabel (palette : Value) (colors : Colors) (label : Value) : Except Fault Colors := do
  match label with
  | .null => return colors
  | _ =>
    let label ← label.toKey
    if (Fields.get? colors label).isSome then return colors
    let color ← colorAt palette colors.length
    return colors ++ [(label, color)]

def colorsFor (cells : List Cell) (palette : Value) : Except Fault Colors :=
  (cells.map (·.label)).foldlM (addLabel (orStandard palette)) []

end Palette

end CellFlow
