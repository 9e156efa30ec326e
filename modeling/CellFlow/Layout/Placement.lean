import CellFlow.Chart.Basic
import CellFlow.Layout.Rank
import CellFlow.Layout.Ring

/-!
Placing a graph: cells and groups in ranks, then artifacts on rings around them. Nodes come
out in the order in which they went in, and edges get numbers from zero on.
-/

set_option autoImplicit false

namespace CellFlow

namespace Placement

variable {α ι : Type} [Coordinate α] [BEq ι] [NodeId ι]

def checkIds : List ι → List (Node ι) → Outcome Unit
  | _, [] => .ok ()
  | seen, n :: nodes =>
    if seen.contains n.id then .error (.duplicateNode (NodeId.toKey n.id).shown)
    else checkIds (n.id :: seen) nodes

def checkEnd (ids : List ι) (index : Nat) (id : ι) : Outcome Unit :=
  if ids.contains id then .ok ()
  else .error (.unknownNode (NodeId.toValue id) [("edge_index", .int index)])

def checkEdges (ids : List ι) (index : Nat) : List (PlainEdge ι) → Outcome Unit
  | [] => .ok ()
  | e :: edges => do
    checkEnd ids index e.source
    checkEnd ids index e.target
    checkEdges ids (index + 1) edges

def withArtifacts (ring : Except Fault (Ring α)) (ranked : Table ι (Point α))
    (nodes : List (Node ι)) : Outcome (Table ι (Point α)) := do
  let placed ← Ring.place ring ranked (nodes.filter fun n => !n.kind.isRanked)
  return placed.foldl (fun t p => t.put p.1 p.2) ranked

def placeNode (centres : Table ι (Point α)) (n : Node ι) : Outcome (ChartNode α) :=
  let id := NodeId.toValue n.id
  match centres.get? n.id with
  | some centre => .ok ⟨id, n.kind, centre, Fields.setDefault n.data "label" n.label⟩
  | none => .error (.fault (.missingField id))

def numberEdges (edges : List (PlainEdge ι)) : List ChartEdge :=
  edges.zipIdx.map fun (e, i) => ⟨i, NodeId.toValue e.source, NodeId.toValue e.target, e.data⟩

def place (rank : List (Node ι) → List (ι × ι) → Outcome (Table ι (Point α)))
    (ring : Except Fault (Ring α)) (nodes : List (Node ι)) (edges : List (PlainEdge ι)) :
    Outcome (List (ChartNode α) × List ChartEdge) := do
  checkIds [] nodes
  checkEdges (nodes.map (·.id)) 0 edges
  let ranked ← rank (nodes.filter fun n => n.kind.isRanked) (edges.map fun e => (e.source, e.target))
  let centres ← withArtifacts ring ranked nodes
  let placed ← nodes.mapM (placeNode centres)
  return (placed, numberEdges edges)

def ofSettings (s : LayoutSettings) (nodes : List (Node ι)) (edges : List (PlainEdge ι)) :
    Outcome (List (ChartNode Float) × List ChartEdge) :=
  place (RankLayout.compute s) (Ring.ofSettings s) nodes edges

end Placement

end CellFlow
