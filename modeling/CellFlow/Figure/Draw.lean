import CellFlow.Artifact
import CellFlow.Chart.Basic
import CellFlow.Figure.Color
import CellFlow.Figure.Extent
import CellFlow.Figure.Fit
import CellFlow.Layout.Rank

/-!
The plan of a figure: all shapes, lines and texts that are drawn for a chart, in drawing
order. Tethers join artifacts to their owners, arrows follow the edges.
-/

set_option autoImplicit false

namespace CellFlow

structure FilledShape where
  shape : Shape Float
  fill : Color
  lineWidth : Float
  deriving Repr

/-- An arrow from centre to centre, and how much is left out at both ends. -/
structure Arrow where
  start : Point Float
  stop : Point Float
  startGap : Float
  stopGap : Float
  deriving Repr

structure Caption where
  text : String
  spot : Point Float
  fontSize : Float
  deriving Repr

structure Figure where
  title : String
  size : Float × Float
  shapes : List FilledShape
  arrows : List Arrow
  tethers : List (Point Float × Point Float)
  captions : List Caption
  legend : Option (List (String × Color))
  frame : Option (Frame Float)
  deriving Repr

namespace Figure

/-- The extent that a node is drawn with: the one that the layout keeps free for it, and a
square for an artifact. -/
def extent {α : Type} [Coordinate α] (s : LayoutSettings) (n : ChartNode α) :
    Except Fault (Size α) :=
  match n.kind with
  | .secondary => do
    let diameter ← Coordinate.read s.nodeHeight
    return ⟨diameter, diameter⟩
  | kind => s.footprint kind n.data

def shapeOf {α : Type} [Coordinate α] (s : LayoutSettings) (n : ChartNode α) :
    Except Fault (Shape α) := do
  return Shape.around n.kind n.centre (← extent s n)

def longestGroupCaption : Nat := 18

def captionOf (n : ChartNode Float) : String :=
  match n.kind with
  | .group =>
    if longestGroupCaption < n.caption.length then String.ofList (n.caption.toList.take 15) ++ "..."
    else n.caption
  | _ => n.caption

def fontSizeOf : NodeKind → Float
  | .secondary => 8.0
  | .primary | .group => 10.0

def lineWidthOf : NodeKind → Float
  | .group => 2.0
  | .primary | .secondary => 1.5

def drawNode (s : LayoutSettings) (f : FigureSettings) (n : ChartNode Float) :
    Outcome (FilledShape × Caption) := do
  let shape ← shapeOf s n
  let fill ← Color.ofValue (Fields.getD n.data "color" f.defaultNodeColor)
  checkShape shape
  return (⟨shape, fill, lineWidthOf n.kind⟩,
    ⟨captionOf n, n.centre, fontSizeOf n.kind⟩)

def tether? (c : Chart Float) (n : ChartNode Float) :
    Except Fault (Option (Point Float × Point Float)) := do
  let owner := Fields.getD n.data "owner" .null
  owner.checkKey
  return (c.latest? owner).map fun o => (o.centre, n.centre)

def readTethers (c : Chart Float) : Except Fault (List (Point Float × Point Float)) := do
  let found ← (c.ofKind .secondary).mapM (tether? c)
  return found.filterMap id

/-- The arrow of an edge whose ends are both in the chart, on a figure of some size. -/
def arrow? (s : LayoutSettings) (size : Float × Float) (c : Chart Float) (e : ChartEdge) :
    Outcome (Option Arrow) := do
  e.source.checkKey
  match c.latest? e.source with
  | none => return none
  | some source =>
    e.target.checkKey
    match c.latest? e.target with
    | none => return none
    | some target =>
      let sourceSize ← extent s source
      let targetSize ← extent s target
      let startGap := Coordinate.half sourceSize.height
      let stopGap := Coordinate.half targetSize.height
      checkArrow size source.centre startGap stopGap
      return some ⟨source.centre, target.centre, startGap, stopGap⟩

def readArrows (s : LayoutSettings) (size : Float × Float) (c : Chart Float) :
    Outcome (List Arrow) := do
  let found ← c.edges.mapM (arrow? s size c)
  return found.filterMap id

section Limits

variable {α : Type} [Coordinate α]

/-- How far the limits of the axes are from the outermost centres. -/
def room (s : LayoutSettings) : Except Fault α :=
  match (Coordinate.ofNumber? s.nodeWidth : Option (Except Fault α)), Coordinate.ofNumber? s.nodeHeight with
  | some w, some h => do
    let w ← w
    let h ← h
    return Coordinate.largest w [h]
  | some _, none => .error (.notOrdered ">" s.nodeHeight.kind.name s.nodeWidth.kind.name)
  | none, some _ => .error (.notOrdered ">" s.nodeHeight.kind.name s.nodeWidth.kind.name)
  | none, none => .error (.operands "-" "float" s.nodeWidth.kind.name)

/-- The limits that a figure asks for; the first node comes apart. -/
def limits (s : LayoutSettings) (first : ChartNode α) (others : List (ChartNode α)) : Except Fault (Frame α) := do
  let room ← room s
  return Frame.around room first.centre (others.map (·.centre))

end Limits

/-- Limits too close to each other, compared with their size, are moved apart. -/
def spread (low high : Float) : Float × Float :=
  let size := Coordinate.largest low.abs [high.abs]
  if size < 2.2250738585072014e-287 then (-0.05, 0.05)
  else if high - low ≤ size * 1e-15 then (low - 0.05 * low.abs, high + 0.05 * high.abs)
  else (low, high)

def settle (first last : Float) : Outcome (Float × Float) :=
  if !first.isFinite || !last.isFinite then .error .badLimits
  else if last < first then
    let (low, high) := spread last first
    .ok (high, low)
  else .ok (spread first last)

def settleFrame (f : Frame Float) : Outcome (Frame Float) := do
  let (left, right) ← settle f.left f.right
  let (bottom, top) ← settle f.bottom f.top
  return ⟨left, right, bottom, top⟩

def readLegend (c : Chart Float) : Outcome (List (String × Color)) := do
  let labels ← c.colors.mapM fun e => do
    let color ← Color.ofValue e.2
    return (match e.1 with
      | .null => ""
      | label => label.shown, color)
  let shown := (c.ofKind .secondary).map fun n => Fields.getD n.data "tag" .null
  shown.forM fun tag => liftM tag.checkKey
  let tags ← (Tag.legend.filter fun t => shown.any (Value.alike (.text t.code))).mapM fun t => do
    return ("output: " ++ t.code, ← Color.ofText t.color)
  return labels ++ tags

def emptyCaption : Caption := ⟨"No cells to display", ⟨0.5, 0.5⟩, 14.0⟩

def titleText : Value → String
  | .null => ""
  | v => v.shown

def chosenSize (f : FigureSettings) (enclosure : Enclosure) : Value → Outcome (Float × Float)
  | .null => readSize enclosure f.figsize
  | v => readSize .brackets v

def draw (s : LayoutSettings) (f : FigureSettings) (enclosure : Enclosure) (title : String)
    (size : Value) (c : Chart Float) : Outcome Figure := do
  let size ← chosenSize f enclosure size
  match c.nodes with
  | [] => return ⟨"", size, [], [], [], [emptyCaption], none, none⟩
  | first :: others =>
    c.nodes.forM fun n => liftM n.id.checkKey
    let tethers ← readTethers c
    let arrows ← readArrows s size c
    let drawn ← c.nodes.mapM (drawNode s f)
    let limits ← limits s first others
    let frame ← settleFrame limits
    let legend ← readLegend c
    checkFit title size frame
    return {
      title
      size
      shapes := drawn.map (·.1)
      arrows
      tethers
      captions := drawn.map (·.2)
      legend := if legend.isEmpty then none else some legend
      frame := some frame }

def standardTitle : String := "Cell Dependency Graph"

end Figure

end CellFlow
