import CellFlow.Files.Path
import CellFlow.Json.Writer
import CellFlow.Settings.Sections

/-!
The settings as a whole: the four sections, the folder for output, and whether progress is
shown. Settings are saved as a document and read back; what a document does not name keeps
its standard value.
-/

set_option autoImplicit false

namespace CellFlow

structure Settings where
  parsing : ParsingSettings := {}
  artifacts : ArtifactSettings := {}
  layout : LayoutSettings := {}
  figure : FigureSettings := {}
  outputFolder : FilePath := ⟨"", ["flowgraph_output"]⟩
  verbose : Value := .bool true
  deriving Inhabited, Repr

namespace Settings

def toValue (s : Settings) : Outcome Value := do
  let figure ← s.figure.toValue
  return .object [("parsing", s.parsing.toValue), ("artifacts", s.artifacts.toValue),
    ("layout", s.layout.toValue), ("visualization", figure),
    ("output_dir", .text s.outputFolder.text), ("verbose", s.verbose)]

def figureFields (fs : Fields) : Except Fault Fields := do
  let given ← (Fields.getD fs "visualization" (.object [])).toFields
  match Fields.get? given "figsize" with
  | none => return given
  | some v => do
    let sides ← v.elements
    return Fields.set given "figsize" (.list sides)

def ofValue (v : Value) : Outcome Settings := do
  let fs ← v.fields
  let figureFields ← figureFields fs
  let part (key : String) : Value := Fields.getD fs key (.object [])
  let parsing ← ParsingSettings.ofValue (part "parsing")
  let artifacts ← ArtifactSettings.ofValue (part "artifacts")
  let layout ← LayoutSettings.ofValue (part "layout")
  let figure ← FigureSettings.ofValue (.object figureFields)
  let outputFolder ← FilePath.ofValue (Fields.getD fs "output_dir" (.text "flowgraph_output"))
  return { parsing, artifacts, layout, figure, outputFolder,
           verbose := Fields.getD fs "verbose" (.bool true) }

def savedLayout : Json.Layout := ⟨some "  ", false⟩

def text (s : Settings) : Outcome String := do
  let v ← s.toValue
  return Json.write savedLayout v

end Settings

end CellFlow
