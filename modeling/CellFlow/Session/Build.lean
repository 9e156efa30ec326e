import CellFlow.Graph.Collapse
import CellFlow.Layout.Placement
import CellFlow.Session.Basic

/-!
Building a chart from cells: the graph of the cells, collapsed into groups if that is
wanted, and its layout. Each step reports what it has done.
-/

set_option autoImplicit false

namespace CellFlow

inductive Notice where
  | banner : Notice
  | grouped (groups : Nat) : Notice
  | counted (cells links artifacts : Nat) : Notice
  | collapsed (nodes links : Nat) : Notice
  | nothingToCollapse : Notice
  | placed (nodes : Nat) : Notice
  deriving DecidableEq, Repr

def rule : String := String.ofList (List.replicate 60 '=')

def secondsText (hundredths : Nat) : String :=
  let digits := toString (hundredths % 100)
  toString (hundredths / 100) ++ (if digits.length = 1 then ".0" else ".") ++ digits ++ "s"

def Notice.text (hundredths : Nat) : Notice → String
  | .banner => rule ++ "\nNOTEBOOK FLOW GRAPH\n" ++ rule ++ "\n"
  | .grouped n => s!"  ✓ Applied {n} cell groups\n"
  | .counted cells links artifacts =>
    s!"  ✓ {cells} cells, {links} dependencies, {artifacts} outputs ({secondsText hundredths})\n"
  | .collapsed nodes links => s!"  ✓ Collapsed into {nodes} nodes, {links} edges\n"
  | .nothingToCollapse => "  ⚠ No groups given, nothing to collapse\n"
  | .placed nodes => s!"  ✓ Layout: {nodes} positioned nodes ({secondsText hundredths})\n"

/-- A step that reports; what it has reported before a failure stays reported. -/
abbrev Telling (α : Type) := ExceptT Failure (StateM (List Notice)) α

namespace Telling

def tell (wanted : Bool) (n : Notice) : Telling Unit :=
  if wanted then ExceptT.lift (modify fun l => l ++ [n]) else pure ()

def ofOutcome {α : Type} (o : Outcome α) : Telling α := ExceptT.mk (pure o)

def outcome {α : Type} (t : Telling α) : Outcome α := (t.run.run []).1

end Telling

open Telling (tell ofOutcome)

/-- Cells with the labels of their groups, their graph, and the graph that is laid out. -/
structure Draft where
  cells : List Cell
  groups : List Group
  graph : CellGraph
  ranked : CellGraph
  isCollapsed : Bool
  deriving Repr

structure Result where
  cells : List Cell
  groups : List Group
  graph : CellGraph
  chart : Chart Float
  deriving Repr

def Result.statistics (r : Result) : Fields :=
  [("cells", .int r.graph.primary.length), ("edges", .int r.graph.links.length),
   ("artifacts", .int r.graph.secondary.length), ("groups", .int r.groups.length),
   ("nodes", .int r.chart.nodes.length)]

namespace Session

/-- The groups of records; null and empty records make none. -/
def readGroups (records : Value) : Outcome (List Group) :=
  if records.truthy then Group.readAll records else .ok []

def rankedGraph (s : Session) (g : CellGraph) (cells : List Cell) (groups : List Group)
    (collapse : Bool) : Telling (CellGraph × Bool) := do
  if collapse then
    if groups.isEmpty then
      tell s.isVerbose .nothingToCollapse
      return (g, false)
    else
      let c ← ofOutcome (g.collapse cells groups s.settings.figure.defaultNodeColor)
      tell s.isVerbose (.collapsed c.nodes.length c.links.length)
      return (c, true)
  else return (g, false)

/-- Sections that have been put aside are missed when they are needed: the palette once the
positions are known to be good, the settings for artifacts once the first cell has its color. -/
def checkSections (s : Session) (cells : List Cell) : Outcome Unit := do
  BuildRules.checkPositions [] (cells.map (·.position))
  s.require .figure
  if !cells.isEmpty then
    let _ ← Palette.colorsFor cells s.settings.figure.palette
    s.require .artifacts

def graphOf (s : Session) (cells : List Cell) : Outcome CellGraph := do
  if !s.instead.entries.isEmpty then s.checkSections cells
  s.rules.build cells

def draft (s : Session) (cells : List Cell) (groups : Value) : Telling Draft := do
  let groups ← ofOutcome (readGroups groups)
  tell s.isVerbose .banner
  let cells := if groups.isEmpty then cells else Group.labelCells groups cells
  tell (s.isVerbose && !groups.isEmpty) (.grouped groups.length)
  let graph ← ofOutcome (s.graphOf cells)
  tell s.isVerbose (.counted graph.primary.length graph.links.length graph.secondary.length)
  return ⟨cells, groups, graph, graph, false⟩

def regroup (s : Session) (d : Draft) (collapse : Bool) : Telling Draft := do
  let (ranked, isCollapsed) ← s.rankedGraph d.graph d.cells d.groups collapse
  return { d with ranked, isCollapsed }

def arrange (s : Session) (d : Draft) : Telling Result := do
  let (nodes, edges) ← ofOutcome
    (Placement.ofSettings s.settings.layout d.ranked.nodes d.ranked.edges)
  ofOutcome (s.require .layout)
  tell s.isVerbose (.placed nodes.length)
  let notes : Fields :=
    [("rank_direction", s.settings.layout.rankDirection), ("collapsed", .bool d.isCollapsed)]
  return ⟨d.cells, d.groups, d.graph, ⟨nodes, edges, d.ranked.colors, notes⟩⟩

def build (s : Session) (cells : List Cell) (groups : Value) (collapse : Bool) : Telling Result := do
  let d ← s.draft cells groups
  let d ← s.regroup d collapse
  s.arrange d

end Session

end CellFlow
