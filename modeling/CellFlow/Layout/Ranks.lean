import CellFlow.Layout.Acyclic

/-!
Ranks: the vertices that no arc enters come first, then those that only arcs from the first
ones enter, and so on, as the generations of a topological order are counted. In an acyclic
graph the rank of a vertex is the length of a longest path that ends at it.
-/

set_option autoImplicit false

namespace CellFlow.Digraph

variable {ι : Type} [DecidableEq ι]

def isFree (g : Digraph ι) (rest : List ι) (v : ι) : Bool :=
  (g.predecessors v).all fun u => u ∉ rest

def peel (g : Digraph ι) : Nat → List ι → List (List ι)
  | 0, _ => []
  | fuel + 1, rest =>
    let free := rest.filter (g.isFree rest)
    if free.isEmpty then [] else free :: peel g fuel (rest.filter fun v => !g.isFree rest v)

def generations (g : Digraph ι) : List (List ι) := g.peel g.vertices.length g.vertices

def rank (g : Digraph ι) (v : ι) : Nat := g.generations.findIdx fun gen => v ∈ gen

def layersOf (g : Digraph ι) (order : List ι) : List (List ι) :=
  g.generations.map fun gen => order.filter fun v => v ∈ gen

end CellFlow.Digraph
