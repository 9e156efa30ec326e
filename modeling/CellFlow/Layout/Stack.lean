import CellFlow.Layout.Coordinate
import CellFlow.Layout.Direction

/-!
Coordinates from layers: ranks are stacked along the main axis and packed across it, from a
margin on and with fixed gaps. A rank is as thick as its largest node, and every node sits
at the middle of the thickness of its rank.
-/

set_option autoImplicit false

namespace CellFlow

structure Spacing (α : Type) where
  mainMargin : α
  crossMargin : α
  nodeGap : α
  rankGap : α
  deriving DecidableEq, Repr

structure Centre (α : Type) where
  main : α
  cross : α
  deriving DecidableEq, Repr

namespace Stack

open Coordinate

variable {α ι : Type} [Coordinate α]

def mainExtent (d : Direction) (s : Size α) : α := if d.isHorizontal then s.width else s.height

def crossExtent (d : Direction) (s : Size α) : α := if d.isHorizontal then s.height else s.width

def pack (gap : α) (extent : ι → α) (main : α) : α → List ι → List (ι × Centre α)
  | _, [] => []
  | cursor, v :: layer =>
    (v, ⟨main, cursor + half (extent v)⟩) :: pack gap extent main (cursor + (extent v + gap)) layer

def thickness (extent : ι → α) : List ι → Option α
  | [] => none
  | v :: layer => some (largest (extent v) (layer.map extent))

/-- Stacks the layers along the main axis, from a coordinate on; also the coordinate where a
further layer would start. -/
def stack (d : Direction) (s : Spacing α) (size : ι → Size α) :
    α → List (List ι) → List (ι × Centre α) × α
  | cursor, [] => ([], cursor)
  | cursor, layer :: layers =>
    match thickness (fun v => mainExtent d (size v)) layer with
    | none => stack d s size cursor layers
    | some t =>
      let here := pack s.nodeGap (fun v => crossExtent d (size v)) (cursor + half t) s.crossMargin layer
      let (others, stop) := stack d s size (cursor + (t + s.rankGap)) layers
      (here ++ others, stop)

/-- Turns the main axis round: the first rank comes last, and the margins stay. -/
def turnRound (s : Spacing α) (stop : α) (centres : List (ι × Centre α)) : List (ι × Centre α) :=
  let total := stop - s.rankGap + s.mainMargin
  centres.map fun (v, c) => (v, { c with main := total - c.main })

def toPoint (d : Direction) (c : Centre α) : Point α :=
  if d.isHorizontal then ⟨c.main, c.cross⟩ else ⟨c.cross, c.main⟩

def place (d : Direction) (s : Spacing α) (size : ι → Size α) (layers : List (List ι)) :
    List (ι × Point α) :=
  let (centres, stop) := stack d s size s.mainMargin layers
  let centres := if d.isReversed then turnRound s stop centres else centres
  centres.map fun (v, c) => (v, toPoint d c)

end Stack

end CellFlow
