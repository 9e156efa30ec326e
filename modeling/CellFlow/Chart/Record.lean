import CellFlow.Chart.Basic

/-!
Charts as documents: how nodes, edges and whole charts are written as values and read back.
-/

set_option autoImplicit false

namespace CellFlow

namespace ChartNode

def position (n : ChartNode Float) : Fields := [("x", .float n.centre.x), ("y", .float n.centre.y)]

def toValue (n : ChartNode Float) : Value :=
  .object [("id", n.id), ("type", .text n.kind.code), ("position", .object n.position),
    ("data", .object n.data)]

def ofValue (v : Value) : Outcome (ChartNode Float) := do
  let id ← v.field "id"
  let kind ← NodeKind.ofValue (← v.field "type")
  let x ← (← (← v.field "position").field "x").toReal
  let y ← (← (← v.field "position").field "y").toReal
  let fs ← v.fields
  let data ← (Fields.getD fs "data" (.object [])).toFields
  return ⟨id, kind, ⟨x, y⟩, data⟩

end ChartNode

namespace ChartEdge

def toValue (e : ChartEdge) : Value :=
  .object [("id", .int e.id), ("source", e.source), ("target", e.target), ("data", .object e.data)]

def ofValue (v : Value) : Outcome ChartEdge := do
  let id ← (← v.field "id").toInteger
  let source ← v.field "source"
  let target ← v.field "target"
  let fs ← v.fields
  let data ← (Fields.getD fs "data" (.object [])).toFields
  return ⟨id, source, target, data⟩

end ChartEdge

namespace Chart

def toFields (c : Chart Float) : Fields :=
  [("nodes", .list (c.nodes.map ChartNode.toValue)), ("edges", .list (c.edges.map ChartEdge.toValue)),
   ("color_map", .object c.colors), ("metadata", .object c.notes)]

def toValue (c : Chart Float) : Value := .object c.toFields

def ofValue (v : Value) : Outcome (Chart Float) := do
  let fs ← v.fields
  let nodes ← (← (Fields.getD fs "nodes" (.list [])).elements).mapM ChartNode.ofValue
  let edges ← (← (Fields.getD fs "edges" (.list [])).elements).mapM ChartEdge.ofValue
  let colors ← (Fields.getD fs "color_map" (.object [])).toFields
  let notes ← (Fields.getD fs "metadata" (.object [])).toFields
  return { nodes, edges, colors, notes }

end Chart

end CellFlow
