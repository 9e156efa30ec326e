import CellFlow.Layout.Digraph

/-!
Breaking cycles: a depth-first walk through the vertices in their order finds the arcs that
lead back to a vertex on the way to them, and these arcs are turned round.
-/

set_option autoImplicit false

namespace CellFlow.Digraph

variable {ι : Type} [DecidableEq ι]

/-- The vertices that a walk has seen, and the back arcs that it has found, in order. -/
structure Walk (ι : Type) where
  seen : List ι
  back : List (ι × ι)
  deriving DecidableEq, Repr

/-- Follows an arc from the vertex at the head of a trail: to a vertex on the trail it leads back,
and from one not yet seen the walk goes on. -/
def follow (next : Walk ι → ι → Walk ι) (trail : List ι) (v : ι) (w : Walk ι) (c : ι) : Walk ι :=
  if c ∈ w.seen then
    if c ∈ trail then { w with back := w.back ++ [(v, c)] } else w
  else next { w with seen := c :: w.seen } c

/-- Goes on from a vertex just seen; `trail` holds the vertices on the way to it. The number
bounds the length of the trail. -/
def explore (g : Digraph ι) : Nat → List ι → Walk ι → ι → Walk ι
  | 0, _, w, _ => w
  | fuel + 1, trail, w, v =>
    (g.successors v).foldl (follow (explore g fuel (v :: trail)) (v :: trail) v) w

def enter (g : Digraph ι) (w : Walk ι) (v : ι) : Walk ι :=
  if v ∈ w.seen then w else g.explore g.vertices.length [] { w with seen := v :: w.seen } v

def walk (g : Digraph ι) : Walk ι := g.vertices.foldl g.enter ⟨[], []⟩

/-- The arcs that close a cycle in the walk. -/
def backArcs (g : Digraph ι) : List (ι × ι) := g.walk.back

def unwound (g : Digraph ι) : Digraph ι := g.backArcs.foldl turn g

end CellFlow.Digraph
