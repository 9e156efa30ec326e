import CellFlow.Data.Distinct

/-!
Directed graphs whose vertices and arcs keep the order in which they were added. What layouts rely
on: adding a vertex or an arc again changes nothing, the neighbours of a vertex come in the order of
its arcs, and an arc that is taken out and added anew comes last.
-/

set_option autoImplicit false

namespace CellFlow

structure Digraph (ι : Type) where
  vertices : List ι
  arcs : List (ι × ι)
  deriving DecidableEq, Repr

namespace Digraph

variable {ι : Type} [DecidableEq ι]

def joins (vertices : List ι) (a : ι × ι) : Bool := a.1 ≠ a.2 ∧ a.1 ∈ vertices ∧ a.2 ∈ vertices

/-- The graph on the listed vertices with the arcs that join two different ones of them. -/
def ofLists (order : List ι) (arcs : List (ι × ι)) : Digraph ι :=
  let vertices := order.foldl addNew []
  ⟨vertices, (arcs.filter (joins vertices)).foldl addNew []⟩

def successors (g : Digraph ι) (v : ι) : List ι :=
  g.arcs.filterMap fun a => if a.1 = v then some a.2 else none

def predecessors (g : Digraph ι) (v : ι) : List ι :=
  g.arcs.filterMap fun a => if a.2 = v then some a.1 else none

/-- Turns an arc round; an arc that is there already is not doubled. -/
def turn (g : Digraph ι) (a : ι × ι) : Digraph ι :=
  { g with arcs := addNew (g.arcs.erase a) (a.2, a.1) }

theorem mem_successors {g : Digraph ι} {v w : ι} : w ∈ g.successors v ↔ (v, w) ∈ g.arcs := by
  simp only [successors, List.mem_filterMap, Option.ite_none_right_eq_some, Option.some.injEq]
  constructor
  · rintro ⟨a, ha, rfl, rfl⟩
    exact ha
  · intro h
    exact ⟨(v, w), h, rfl, rfl⟩

theorem mem_predecessors {g : Digraph ι} {v w : ι} : w ∈ g.predecessors v ↔ (w, v) ∈ g.arcs := by
  simp only [predecessors, List.mem_filterMap, Option.ite_none_right_eq_some, Option.some.injEq]
  constructor
  · rintro ⟨a, ha, rfl, rfl⟩
    exact ha
  · intro h
    exact ⟨(w, v), h, rfl, rfl⟩

end Digraph

end CellFlow
