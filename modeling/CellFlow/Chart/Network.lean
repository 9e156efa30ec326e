import CellFlow.Chart.Record

/-!
The network of a chart: its nodes and edges with all that is known about them as one set of
attributes each. Such a container stands for any that keeps to these rules: nodes are told apart by
their keys, and null is none; nodes and edges stay where they were added first, and adding one again
merges its attributes into the earlier ones; edges are listed by the nodes that they leave.
-/

set_option autoImplicit false

namespace CellFlow

structure Network where
  nodes : List (Key × Fields)
  edges : List ((Key × Key) × Fields)
  deriving Inhabited, Repr

namespace Network

def empty : Network := ⟨[], []⟩

/-- Later attributes replace earlier ones of the same name. -/
def merge (old new : Fields) : Fields := new.foldl (fun fs f => Fields.set fs f.1 f.2) old

def has (n : Network) (id : Key) : Bool := n.nodes.any fun e => e.1 == id

/-- Attributes are named by texts, and those that come beside the data of a node or an edge
must not be named in it. -/
def checkClash (callee : String) (taken : List String) (data : Fields) : Except Fault Unit := do
  let names ← data.mapM fun f => f.1.toArgumentName
  match names.find? fun name => name ∈ taken with
  | some name => throw (.repeatedArgument callee name)
  | none => return

def takenByNodes : List String := ["kind", "x", "y", "self", "node_for_adding"]

def takenByEdges : List String := ["id", "self", "u_of_edge", "v_of_edge"]

def putNode (id : Key) (attributes : Fields) : List (Key × Fields) → List (Key × Fields)
  | [] => [(id, attributes)]
  | e :: l =>
    if e.1 == id then (e.1, merge e.2 attributes) :: l else e :: putNode id attributes l

def addNode (n : Network) (node : ChartNode Float) : Outcome Network := do
  checkClash "add_node()" takenByNodes node.data
  let id ← node.id.toKey
  match id with
  | .null => throw .nullNode
  | _ => pure ()
  let attributes := merge (("kind", .text node.kind.code) :: node.position) node.data
  return { n with nodes := putNode id attributes n.nodes }

def readEnd (n : Network) (e : ChartEdge) (id : Value) : Outcome Key :=
  match id.key?.filter n.has with
  | some k => .ok k
  | none => .error (.unknownNode id [("edge_id", .int e.id)])

def putEdge (source target : Key) (attributes : Fields) :
    List ((Key × Key) × Fields) → List ((Key × Key) × Fields)
  | [] => [((source, target), attributes)]
  | p :: l =>
    if p.1.1 == source && p.1.2 == target then (p.1, merge p.2 attributes) :: l
    else p :: putEdge source target attributes l

def addEdge (n : Network) (e : ChartEdge) : Outcome Network := do
  let source ← n.readEnd e e.source
  let target ← n.readEnd e e.target
  checkClash "add_edge()" takenByEdges e.data
  let attributes := merge [("id", .int e.id)] e.data
  return { n with edges := putEdge source target attributes n.edges }

def ofChart (c : Chart Float) : Outcome Network := do
  let n ← c.nodes.foldlM addNode empty
  c.edges.foldlM addEdge n

/-- The edges by the nodes that they leave, in the order of the nodes; each end is shown as
the node that it names. -/
def sortedEdges (n : Network) : List ((Key × Key) × Fields) :=
  n.nodes.flatMap fun source =>
    (n.edges.filter fun e => e.1.1 == source.1).map fun e => ((source.1, e.1.2), e.2)

end Network

end CellFlow
