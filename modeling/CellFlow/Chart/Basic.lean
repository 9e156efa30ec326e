import CellFlow.Graph.Flow
import CellFlow.Graph.Node
import CellFlow.Layout.Coordinate
import CellFlow.Palette

/-!
Charts: graphs whose nodes have been placed. A chart that was read from a document may use
any values as ids; a chart that was laid out uses the ids of its cells and artifacts.
-/

set_option autoImplicit false

namespace CellFlow

structure ChartNode (α : Type) where
  id : Value
  kind : NodeKind
  centre : Point α
  data : Fields := []
  deriving Repr

structure ChartEdge where
  id : Int
  source : Value
  target : Value
  data : Fields := []
  deriving Inhabited, Repr

structure Chart (α : Type) where
  nodes : List (ChartNode α)
  edges : List ChartEdge
  colors : Colors := []
  notes : Fields := []
  deriving Repr

namespace Chart

variable {α : Type}

def find? (c : Chart α) (id : Value) : Option (ChartNode α) := c.nodes.find? fun n => n.id.alike id

/-- The node that an id stands for where later nodes replace earlier ones. -/
def latest? (c : Chart α) (id : Value) : Option (ChartNode α) :=
  c.nodes.reverse.find? fun n => n.id.alike id

def ofKind (c : Chart α) (k : NodeKind) : List (ChartNode α) := c.nodes.filter fun n => n.kind = k

def pairs (c : Chart α) : Except Fault (List (Key × Key)) :=
  c.edges.foldlM (fun ps e => do
    let p := (← e.source.toKey, ← e.target.toKey)
    return if ps.any fun q => q.1 == p.1 && q.2 == p.2 then ps else ps ++ [p]) []

end Chart

def ChartNode.caption {α : Type} (n : ChartNode α) : String := (Fields.getD n.data "label" n.id).shown

end CellFlow
