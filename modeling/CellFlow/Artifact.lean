import CellFlow.Settings.Sections

/-!
Artifacts: the outputs of a cell that are shown as nodes of their own. A display is an
artifact, and so is a result whose markup holds a table.
-/

set_option autoImplicit false

namespace CellFlow

inductive Tag where
  | display | table
  deriving DecidableEq, Repr

namespace Tag

def all : List Tag := [.display, .table]

def code : Tag → String
  | .display => "vis"
  | .table => "df"

def color : Tag → String
  | .table => "#c5d0d3"
  | .display => "#efe095"

def legend : List Tag := [.table, .display]

def ofCode? (s : String) : Option Tag := all.find? fun t => t.code == s

theorem ofCode?_code (t : Tag) : ofCode? t.code = some t := by
  cases t <;> decide

end Tag

namespace Artifact

/-- The parts of a markup payload: lines are joined, and anything else but text is none. -/
def payloadText : Value → String
  | .list parts => String.join (parts.map Value.shown)
  | .text s => s
  | _ => ""

def markupOf (s : ArtifactSettings) (output : Fields) : Except Fault String := do
  let data := Fields.getD output "data" .null
  let data ← if data.truthy then data.fields else pure []
  let key ← s.htmlMimeType.toKey
  return payloadText (Fields.getD data key (.text ""))

def tagOf (s : ArtifactSettings) (output : Value) : Except Fault (Option Tag) := do
  match output with
  | .object fs =>
    let outputType := Fields.getD fs "output_type" .null
    if ← s.displayOutputTypes.holds outputType then return some .display
    if ← s.resultOutputTypes.holds outputType then
      let markup ← markupOf s fs
      if ← Value.holds (.text markup) s.tableMarker then return some .table
    return none
  | _ => return none

def tagsOf (s : ArtifactSettings) (outputs : List Value) : Except Fault (List Tag) := do
  let tags ← outputs.mapM (tagOf s)
  return tags.filterMap id

end Artifact

end CellFlow
