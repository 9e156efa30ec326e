import CellFlow.Data.Table
import CellFlow.Graph.Node
import CellFlow.Layout.Stack
import CellFlow.Layout.Sweep
import CellFlow.Settings.Sections

/-!
The layered layout of cells and groups: cycles are broken, nodes are ranked by their
longest paths, ordered within their ranks by sweeps, and stacked.
-/

set_option autoImplicit false

namespace CellFlow

namespace LayoutSettings

variable {α : Type} [Coordinate α]

/-- The extent that a node of a kind takes up: groups may bring their own. -/
def footprint (s : LayoutSettings) (kind : NodeKind) (data : Fields) : Except Fault (Size α) :=
  match kind with
  | .group => do
    let width ← Coordinate.read (Fields.getD data "width" s.nodeWidth)
    let height ← Coordinate.read (Fields.getD data "height" s.nodeHeight)
    return ⟨width, height⟩
  | _ => do
    let width ← Coordinate.read s.nodeWidth
    let height ← Coordinate.read s.nodeHeight
    return ⟨width, height⟩

def spacing (s : LayoutSettings) (d : Direction) : Except Fault (Spacing α) := do
  let mainMargin ← Coordinate.leftOperand (if d.isHorizontal then s.marginX else s.marginY)
  let crossMargin ← Coordinate.leftOperand (if d.isHorizontal then s.marginY else s.marginX)
  let nodeGap ← Coordinate.rightOperand "+" s.nodeSep
  let rankGap ← Coordinate.rightOperand "+" s.rankSep
  return ⟨mainMargin, crossMargin, nodeGap, rankGap⟩

end LayoutSettings

namespace RankLayout

def layers {ι : Type} [DecidableEq ι] (order : List ι) (arcs : List (ι × ι)) (sweeps : Nat) :
    List (List ι) :=
  let g := (Digraph.ofLists order arcs).unwound
  g.sweeps sweeps (g.layersOf order)

def arrange {ι α : Type} [DecidableEq ι] [Coordinate α] (d : Direction) (s : Spacing α)
    (size : ι → Size α) (sweeps : Nat) (order : List ι) (arcs : List (ι × ι)) :
    List (ι × Point α) :=
  Stack.place d s size (layers order arcs sweeps)

variable {ι α : Type} [BEq ι] [Coordinate α]

/-- The nodes by number: each id stands for the first node that has it. -/
def numberOf (ids : List ι) (id : ι) : Nat := ids.findIdx (· == id)

def numberArcs (ids : List ι) (arcs : List (ι × ι)) : List (Nat × Nat) :=
  (arcs.map fun a => (numberOf ids a.1, numberOf ids a.2)).filter fun a =>
    a.1 < ids.length && a.2 < ids.length

/-- The sizes of the nodes by their ids; of equal ids the last counts. -/
def sizes (settings : LayoutSettings) : Table ι (Size α) → List (Node ι) →
    Except Fault (Table ι (Size α))
  | t, [] => .ok t
  | t, n :: nodes => do
    let size ← settings.footprint n.kind n.data
    sizes settings (t.put n.id size) nodes

def sizeAt (ids : List ι) (sizes : Table ι (Size α)) (number : Nat) : Size α :=
  ((ids[number]?).bind sizes.get?).getD ⟨0, 0⟩

def byId (ids : List ι) (placed : List (Nat × Point α)) : Table ι (Point α) :=
  placed.foldl (fun t p =>
    match ids[p.1]? with
    | some id => t.put id p.2
    | none => t) .empty

def compute [NodeId ι] (settings : LayoutSettings) (nodes : List (Node ι)) (arcs : List (ι × ι)) :
    Outcome (Table ι (Point α)) := do
  if nodes.isEmpty then return .empty
  let sizes ← sizes settings .empty nodes
  if nodes.any fun n => NodeId.toKey n.id == Key.null then throw .nullNode
  let sweeps ← settings.crossingSweeps.toIndex
  let d ← settings.direction
  let spacing ← settings.spacing d
  let ids := nodes.map (·.id)
  return byId ids
    (arrange d spacing (sizeAt ids sizes) sweeps.toNat (ids.map (numberOf ids)) (numberArcs ids arcs))

end RankLayout

end CellFlow
