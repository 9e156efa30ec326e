import CellFlow.Data.Sort
import CellFlow.Layout.Ranks

/-!
Ordering the vertices within their ranks. A sweep goes through the ranks downwards or
upwards and sorts each by the mean slot of the neighbours on the side that it comes from.
Means are compared exactly, as fractions.
-/

set_option autoImplicit false

namespace CellFlow

/-- The mean of some slots: their sum and their number, which is positive. -/
structure Mean where
  sum : Nat
  count : Nat
  deriving DecidableEq, Repr

def Mean.le (a b : Mean) : Bool := a.sum * b.count ≤ b.sum * a.count

namespace Digraph

variable {ι : Type} [DecidableEq ι]

/-- The slot of a vertex in a layer: the last one that holds it. -/
def slotIn? (v : ι) : List ι → Option Nat
  | [] => none
  | u :: layer =>
    match slotIn? v layer with
    | some i => some (i + 1)
    | none => if u = v then some 0 else none

def slot (layers : List (List ι)) (v : ι) : Nat := (layers.findSome? (slotIn? v)).getD 0

/-- The mean slot of the neighbours; a vertex without any stays at its own slot. -/
def barycenter (layers : List (List ι)) (neighbours : List ι) (current : Nat) : Mean :=
  if neighbours.isEmpty then ⟨current, 1⟩
  else ⟨neighbours.foldr (fun v n => slot layers v + n) 0, neighbours.length⟩

/-- A layer sorted by the means of its vertices; equal means keep their order. -/
def reorder (neighbours : ι → List ι) (layers : List (List ι)) (layer : List ι) : List ι :=
  let keyed := layer.zipIdx.map fun (v, i) => (barycenter layers (neighbours v) i, v)
  (sortBy (fun a b => a.1.le b.1) keyed).map (·.2)

def reorderAt (neighbours : ι → List ι) (layers : List (List ι)) (rank : Nat) : List (List ι) :=
  layers.modify rank (reorder neighbours layers)

def sweepRanks (downward : Bool) (count : Nat) : List Nat :=
  if downward then (List.range (count - 1)).map (· + 1) else (List.range (count - 1)).reverse

/-- Even sweeps go down by the predecessors, odd ones up by the successors. -/
def sweep (g : Digraph ι) (layers : List (List ι)) (index : Nat) : List (List ι) :=
  let downward := index % 2 == 0
  let neighbours := if downward then g.predecessors else g.successors
  (sweepRanks downward layers.length).foldl (reorderAt neighbours) layers

def sweeps (g : Digraph ι) (count : Nat) (layers : List (List ι)) : List (List ι) :=
  (List.range count).foldl g.sweep layers

end Digraph

end CellFlow
