import CellFlow.Artifact
import CellFlow.Graph.Flow
import CellFlow.Graph.Node
import CellFlow.Palette
import CellFlow.Settings.Basic

/-!
The graph of a list of cells: a node for each cell, followed by the nodes of its artifacts,
and the links of the flow between the cells.
-/

set_option autoImplicit false

namespace CellFlow

/-- A graph before layout. Links come with the names that they carry, in the order in which
they were found; the names of each cell are kept under its position. -/
structure CellGraph where
  nodes : List CellNode
  carried : Table Link (List String)
  names : List (Int × CellNames)
  colors : Colors
  deriving Inhabited, Repr

namespace CellGraph

def links (g : CellGraph) : List Link := g.carried.keys

def ofKind (g : CellGraph) (k : NodeKind) : List CellNode := g.nodes.filter fun n => n.kind = k

def primary (g : CellGraph) : List CellNode := g.ofKind .primary

def secondary (g : CellGraph) : List CellNode := g.ofKind .secondary

def linkData (names : List String) : Fields := [("variables", .list (names.map .text))]

def edges (g : CellGraph) : List (PlainEdge String) :=
  g.carried.entries.map fun e => ⟨e.1.source, e.1.target, linkData e.2⟩

end CellGraph

/-- What a graph is built by: the rules for names, and the settings for artifacts and colors. -/
structure BuildRules where
  names : Names.Rules
  artifacts : ArtifactSettings := {}
  figure : FigureSettings := {}
  deriving Repr

namespace BuildRules

def ofSettings (s : Settings) : Except Fault BuildRules := do
  let names ← Names.Rules.ofSettings s.parsing
  return { names, artifacts := s.artifacts, figure := s.figure }

def checkPositions : List Int → List Int → Outcome Unit
  | _, [] => .ok ()
  | seen, p :: ps =>
    if p ∈ seen then .error (.duplicatePosition p) else checkPositions (p :: seen) ps

def cellNode (r : BuildRules) (colors : Colors) (c : Cell) (n : CellNames) : CellNode where
  id := c.id
  label := .text (toString c.position)
  kind := .primary
  data :=
    [("label", .text (toString c.position)),
     ("color", (colors.find? c.label).getD r.figure.defaultNodeColor),
     ("group", c.label),
     ("execution_count", c.executionCount),
     ("source", .text c.sourceText),
     ("assigned", .list (n.assigned.toList.map .text)),
     ("used", .list (n.used.toList.map .text))]

def artifactNode (c : Cell) (tag : Tag) (index : Nat) : CellNode where
  id := artifactId c.id index
  label := .text tag.code
  kind := .secondary
  data :=
    [("label", .text tag.code), ("tag", .text tag.code), ("owner", .text c.id),
     ("color", .text tag.color)]

def artifactNodes (c : Cell) (tags : List Tag) : List CellNode :=
  tags.zipIdx.map fun (tag, index) => artifactNode c tag index

/-- The tags of a cell's artifacts, none unless artifacts are enabled. -/
def tags (r : BuildRules) (c : Cell) : Except Fault (List Tag) :=
  if r.artifacts.enabled.truthy then Artifact.tagsOf r.artifacts c.outputs else .ok []

def nodesOf (r : BuildRules) (colors : Colors) (c : Cell) (n : CellNames) :
    Except Fault (List CellNode) := do
  let tags ← r.tags c
  return r.cellNode colors c n :: artifactNodes c tags

def allNodes (r : BuildRules) (colors : Colors) : List (Cell × CellNames) → Except Fault (List CellNode)
  | [] => .ok []
  | (c, n) :: rest => do
    let here ← r.nodesOf colors c n
    let others ← r.allNodes colors rest
    return here ++ others

def build (r : BuildRules) (cells : List Cell) : Outcome CellGraph := do
  let positions := cells.map (·.position)
  checkPositions [] positions
  let names := cells.map fun c => r.names.extract c.source
  let flow := Flow.ofCells (positions.zip names)
  let colors ← Palette.colorsFor cells r.figure.palette
  let nodes ← r.allNodes colors (cells.zip names)
  return {
    nodes
    carried := flow.carried.mapValues NameSet.toList
    names := positions.zip names
    colors }

end BuildRules

end CellFlow
