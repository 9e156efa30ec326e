import CellFlow.Chart.Basic
import CellFlow.Text.Markup

/-!
The nodes and edges of a chart as the items that a page shows: with a short label, a tooltip
in markup, a shape and a size.
-/

set_option autoImplicit false

namespace CellFlow.Page

structure NodeItem where
  id : Value
  label : String
  title : String
  color : Value
  shape : String
  size : Int
  group : String
  centre : Point Float
  deriving Repr

structure EdgeItem where
  id : Int
  source : Value
  target : Value
  title : String
  deriving Repr

def shapeOf : NodeKind → String
  | .secondary => "dot"
  | .primary | .group => "box"

def plainColor : Value := .text "#f9f6ed"

def labelLength : Nat := 20

def excerptLength : Nat := 200

def cut (n : Nat) (s : String) : String := String.ofList (s.toList.take n)

def excerpt : Value → Except Fault String
  | .text s => .ok (cut excerptLength s)
  | .list _ => .error (.noAttribute .list "replace")
  | .object _ => .error .notSlice
  | v => .error (.notSubscriptable v.kind)

def groupTooltip (data : Fields) : Except Fault String := do
  let cells ← Value.join ", " (Fields.getD data "cells" (.list []))
  let label := (Fields.getD data "label" (.text "")).shown
  return "<b>" ++ Text.markup label ++ "</b><br>cells: " ++ cells

def artifactTooltip (data : Fields) : String :=
  "<b>output: " ++ Text.markup (Fields.getD data "tag" (.text "")).shown ++ "</b>"

/-- The part of a tooltip for a field, none for a field that is absent, null, zero or empty. -/
def whenGiven (data : Fields) (key : String) (part : Value → Except Fault String) :
    Except Fault String :=
  let v := Fields.getD data key .null
  if v.truthy then part v else .ok ""

def cellTooltip (n : ChartNode Float) : Except Fault String := do
  let group ← whenGiven n.data "group" fun v => .ok (Text.markup v.shown ++ "<br>")
  let assigned ← whenGiven n.data "assigned" fun v => do
    return "assigns: " ++ Text.markup (← v.join ", ") ++ "<br>"
  let source ← whenGiven n.data "source" fun v => do
    return "<br><code>" ++ Text.markup (← excerpt v) ++ "</code>"
  return "<b>Cell " ++ Text.markup n.caption ++ "</b><br>" ++ group ++ assigned ++ source

def tooltip (n : ChartNode Float) : Except Fault String :=
  match n.kind with
  | .secondary => .ok (artifactTooltip n.data)
  | .group => groupTooltip n.data
  | .primary => cellTooltip n

def sizeOf (n : ChartNode Float) : Except Fault Int :=
  match n.kind with
  | .group => do
    let cells ← (Fields.getD n.data "size" (.int 1)).toInteger
    return cells * 5 + 20
  | .secondary => .ok 12
  | .primary => .ok 20

def nodeItem (n : ChartNode Float) : Except Fault NodeItem := do
  let title ← tooltip n
  let size ← sizeOf n
  return {
    id := n.id
    label := cut labelLength n.caption
    title
    color := Fields.getD n.data "color" plainColor
    shape := shapeOf n.kind
    size
    group := n.kind.code
    centre := n.centre }

/-- The size of a node can be written: it has no more digits than an integer may have. -/
def checkSize (n : NodeItem) : Except Fault Unit :=
  if n.size.natAbs < Nat.pow 10 Number.maxDigits then .ok () else .error .tooLongInteger

def edgeItem (e : ChartEdge) : Except Fault EdgeItem := do
  let title ← whenGiven e.data "variables" (Value.join ", ")
  return ⟨e.id, e.source, e.target, title⟩

def NodeItem.toFields (n : NodeItem) : Fields :=
  [("id", n.id), ("label", .text n.label), ("title", .text n.title), ("color", n.color),
   ("shape", .text n.shape), ("size", .int n.size), ("group", .text n.group),
   ("x", .float n.centre.x), ("y", .float n.centre.y), ("fixed", .bool true)]

def EdgeItem.toFields (e : EdgeItem) : Fields :=
  [("id", .int e.id), ("from", e.source), ("to", e.target), ("arrows", .text "to"),
   ("color", .object [("color", .text "#666"), ("opacity", .float 0.6)]), ("title", .text e.title)]

def items (c : Chart Float) : Except Fault (List NodeItem × List EdgeItem) := do
  let nodes ← c.nodes.mapM nodeItem
  let edges ← c.edges.mapM edgeItem
  return (nodes, edges)

end CellFlow.Page
