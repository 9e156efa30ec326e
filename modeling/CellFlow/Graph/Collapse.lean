import CellFlow.Graph.Build
import CellFlow.Graph.Group

/-!
Collapsing a graph: the cells of a group become one node, links between groups are merged
and links inside a group dropped. Artifacts are not carried over.
-/

set_option autoImplicit false

namespace CellFlow

namespace Collapse

def groupId (index : Nat) : String := s!"group-{index + 1}"

/-- The node that stands for a cell: that of its group, or its own. -/
def classOf (groups : List Group) (c : Cell) : String :=
  match Group.find? groups c.position with
  | some (_, index) => groupId index
  | none => c.id

def classes (groups : List Group) (cells : List Cell) : Table String String :=
  cells.foldl (fun t c => t.put c.id (classOf groups c)) .empty

def members (groups : List Group) (cells : List Cell) : Table String (List String) :=
  cells.foldl (fun t c =>
    match Group.find? groups c.position with
    | some (_, index) => t.put (groupId index) ((t.get? (groupId index)).getD [] ++ [c.id])
    | none => t) .empty

/-- A group's node is a square that grows with the number of its cells. -/
def footprint (size : Nat) : Int := 60 + size * 10

def groupNode (id : String) (g : Group) (cells : List String) (color : Value) : CellNode where
  id := id
  label := .text g.label
  kind := .group
  data :=
    [("label", .text g.label), ("size", .int cells.length), ("cells", .list (cells.map .text)),
     ("color", color), ("width", .int (footprint cells.length)),
     ("height", .int (footprint cells.length))]

def primaryNode? (g : CellGraph) (id : String) : Option CellNode :=
  g.primary.reverse.find? fun n => n.id == id

def nodeFor (g : CellGraph) (groups : List Group) (all : Table String (List String))
    (names : Table String String) (defaultColor : Value) (done : List String) (c : Cell) :
    Outcome (Option CellNode) :=
  let id := (names.get? c.id).getD c.id
  if id ∈ done then .ok none
  else match all.get? id, groups.zipIdx.find? fun p => groupId p.2 == id with
    | some cells, some (group, _) =>
      let color := (g.colors.find? (.text group.label)).getD defaultColor
      .ok (some (groupNode id group cells color))
    | _, _ =>
      match primaryNode? g id with
      | some n => .ok (some n)
      | none => .error (.fault (.missingField (.text id)))

def nodes (g : CellGraph) (groups : List Group) (all : Table String (List String))
    (names : Table String String) (defaultColor : Value) :
    List String → List Cell → Outcome (List CellNode)
  | _, [] => .ok []
  | done, c :: cells => do
    let new ← nodeFor g groups all names defaultColor done c
    let others ← nodes g groups all names defaultColor ((new.map (·.id)).toList ++ done) cells
    return new.toList ++ others

def standIn (names : Table String String) (l : Link) (id : String) : Outcome String :=
  match names.get? id with
  | some s => .ok s
  | none => .error (.unknownNode (.text id) [("edge", .object l.toFields)])

def addLink (names : Table String String) (t : Table Link NameSet) (e : Link × List String) :
    Outcome (Table Link NameSet) := do
  let source ← standIn names e.1 e.1.source
  let target ← standIn names e.1 e.1.target
  if source = target then return t
  return Flow.credit t ⟨source, target⟩ e.2

end Collapse

/-- The graph with one node for each group that has cells. -/
def CellGraph.collapse (g : CellGraph) (cells : List Cell) (groups : List Group)
    (defaultColor : Value) : Outcome CellGraph := do
  let names := Collapse.classes groups cells
  let nodes ← Collapse.nodes g groups (Collapse.members groups cells) names defaultColor [] cells
  let carried ← g.carried.entries.foldlM (Collapse.addLink names) .empty
  return {
    nodes
    carried := carried.mapValues NameSet.toList
    names := g.names
    colors := g.colors }

end CellFlow
