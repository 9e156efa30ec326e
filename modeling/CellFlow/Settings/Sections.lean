import CellFlow.Data.Access
import CellFlow.Layout.Direction

/-!
The four sections of the settings. A field holds whatever value it was given; only the
layout section is checked, and what a field means is decided where it is used.
-/

set_option autoImplicit false

namespace CellFlow

structure ParsingSettings where
  skipMagics : Value := .bool true
  extraExcludedNames : Value := .list []
  deriving Inhabited, Repr

structure ArtifactSettings where
  enabled : Value := .bool true
  displayOutputTypes : Value := .list [.text "display_data"]
  resultOutputTypes : Value := .list [.text "execute_result"]
  htmlMimeType : Value := .text "text/html"
  tableMarker : Value := .text "<table"
  deriving Inhabited, Repr

structure LayoutSettings where
  rankDirection : Value := .text "TB"
  align : Value := .text "UL"
  nodeSep : Value := .int 50
  rankSep : Value := .int 50
  marginX : Value := .int 20
  marginY : Value := .int 20
  nodeWidth : Value := .int 100
  nodeHeight : Value := .int 40
  artifactRadius : Value := .int 90
  artifactSlots : Value := .int 8
  crossingSweeps : Value := .int 4
  deriving Inhabited, Repr

def defaultPalette : List String :=
  ["#8dd3c7", "#fdb462", "#bebada", "#fb8072", "#80b1d3", "#b3de69", "#fccde5", "#bc80bd",
   "#ccebc5", "#ffed6f"]

structure FigureSettings where
  enabled : Value := .bool true
  interactiveHtml : Value := .bool true
  dpi : Value := .int 150
  figsize : Value := .list [.int 12, .int 14]
  palette : Value := .list (defaultPalette.map .text)
  defaultNodeColor : Value := .text "#f9f6ed"
  defaultArtifactColor : Value := .text "#ecf0f1"
  deriving Inhabited, Repr

/-- Sets one field of a section by its name; none when there is no such field. -/
abbrev Setter (σ : Type) := String → Value → σ → Option σ

def ParsingSettings.set : Setter ParsingSettings
  | "skip_magics", v, s => some { s with skipMagics := v }
  | "extra_excluded_names", v, s => some { s with extraExcludedNames := v }
  | _, _, _ => none

def ParsingSettings.toFields (s : ParsingSettings) : Fields :=
  [("skip_magics", s.skipMagics), ("extra_excluded_names", s.extraExcludedNames)]

def ParsingSettings.toValue (s : ParsingSettings) : Value := .object s.toFields

def ArtifactSettings.set : Setter ArtifactSettings
  | "enabled", v, s => some { s with enabled := v }
  | "display_output_types", v, s => some { s with displayOutputTypes := v }
  | "result_output_types", v, s => some { s with resultOutputTypes := v }
  | "html_mime_type", v, s => some { s with htmlMimeType := v }
  | "table_marker", v, s => some { s with tableMarker := v }
  | _, _, _ => none

def ArtifactSettings.toFields (s : ArtifactSettings) : Fields :=
  [("enabled", s.enabled), ("display_output_types", s.displayOutputTypes),
    ("result_output_types", s.resultOutputTypes), ("html_mime_type", s.htmlMimeType),
    ("table_marker", s.tableMarker)]

def ArtifactSettings.toValue (s : ArtifactSettings) : Value := .object s.toFields

def LayoutSettings.set : Setter LayoutSettings
  | "rank_direction", v, s => some { s with rankDirection := v }
  | "align", v, s => some { s with align := v }
  | "node_sep", v, s => some { s with nodeSep := v }
  | "rank_sep", v, s => some { s with rankSep := v }
  | "margin_x", v, s => some { s with marginX := v }
  | "margin_y", v, s => some { s with marginY := v }
  | "node_width", v, s => some { s with nodeWidth := v }
  | "node_height", v, s => some { s with nodeHeight := v }
  | "artifact_radius", v, s => some { s with artifactRadius := v }
  | "artifact_slots", v, s => some { s with artifactSlots := v }
  | "crossing_sweeps", v, s => some { s with crossingSweeps := v }
  | _, _, _ => none

def LayoutSettings.toFields (s : LayoutSettings) : Fields :=
  [("rank_direction", s.rankDirection), ("align", s.align), ("node_sep", s.nodeSep),
    ("rank_sep", s.rankSep), ("margin_x", s.marginX), ("margin_y", s.marginY),
    ("node_width", s.nodeWidth), ("node_height", s.nodeHeight),
    ("artifact_radius", s.artifactRadius), ("artifact_slots", s.artifactSlots),
    ("crossing_sweeps", s.crossingSweeps)]

def LayoutSettings.toValue (s : LayoutSettings) : Value := .object s.toFields

def FigureSettings.set : Setter FigureSettings
  | "enabled", v, s => some { s with enabled := v }
  | "interactive_html", v, s => some { s with interactiveHtml := v }
  | "dpi", v, s => some { s with dpi := v }
  | "figsize", v, s => some { s with figsize := v }
  | "palette", v, s => some { s with palette := v }
  | "default_node_color", v, s => some { s with defaultNodeColor := v }
  | "default_artifact_color", v, s => some { s with defaultArtifactColor := v }
  | _, _, _ => none

def FigureSettings.toFields (s : FigureSettings) : Fields :=
  [("enabled", s.enabled), ("interactive_html", s.interactiveHtml), ("dpi", s.dpi),
    ("figsize", s.figsize), ("palette", s.palette),
    ("default_node_color", s.defaultNodeColor), ("default_artifact_color", s.defaultArtifactColor)]

def FigureSettings.toValue (s : FigureSettings) : Outcome Value := do
  let figsize ← s.figsize.elements
  return .object ({ s with figsize := .list figsize } : FigureSettings).toFields

def readFields {σ : Type} (callee : String) (set : Setter σ) (s : σ) (given : Fields) :
    Except Fault σ := do
  let names ← given.mapM fun f => f.1.toArgumentName
  (names.zip given).foldlM (fun s f =>
    match set f.1 f.2.2 s with
    | some s => .ok s
    | none => .error (.unknownArgument s!"{callee}.__init__()" f.1)) s

def readSection {σ : Type} (callee : String) (set : Setter σ) (s : σ) (v : Value) :
    Except Fault σ :=
  match v with
  | .object fs => readFields callee set s fs
  | _ => .error (.notArguments s!"notebook_flowgraph.core.config.{callee}()" v.kind)

def ParsingSettings.ofValue (v : Value) : Except Fault ParsingSettings :=
  readSection "ParsingConfig" ParsingSettings.set {} v

def ArtifactSettings.ofValue (v : Value) : Except Fault ArtifactSettings :=
  readSection "ArtifactConfig" ArtifactSettings.set {} v

def FigureSettings.ofValue (v : Value) : Except Fault FigureSettings :=
  readSection "VisualizationConfig" FigureSettings.set {} v

def compareToInt (op : String) (test : Float → Bool) (intTest : Int → Bool) (v : Value) :
    Except Fault Bool :=
  match v with
  | .bool b => .ok (intTest (Value.ofBool b))
  | .int n => .ok (intTest n)
  | .float x => .ok (test x)
  | _ => .error (.notOrdered op v.kind.name Kind.int.name)

/-- The checks that a layout section has to pass, in this order. -/
def LayoutSettings.check (s : LayoutSettings) : Outcome Unit := do
  let _ ← Direction.ofValue s.rankDirection
  if !s.align.alike (.text "UL") then throw (.unsupportedAlignment s.align)
  if ← compareToInt "<=" (· ≤ 0.0) (· ≤ 0) s.artifactSlots then throw .slotsNotPositive
  if ← compareToInt "<" (· < 0.0) (· < 0) s.crossingSweeps then throw .sweepsNegative

def LayoutSettings.ofValue (v : Value) : Outcome LayoutSettings := do
  let s ← readSection "LayoutConfig" LayoutSettings.set {} v
  s.check
  return s

def LayoutSettings.direction (s : LayoutSettings) : Outcome Direction :=
  Direction.ofValue s.rankDirection

end CellFlow
