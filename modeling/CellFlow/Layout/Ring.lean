import CellFlow.Data.Table
import CellFlow.Graph.Node
import CellFlow.Layout.Coordinate
import CellFlow.Settings.Sections

/-!
Placing artifacts on a ring around their owners: the artifacts of an owner take the slots
of its ring in the order in which they are listed.
-/

set_option autoImplicit false

namespace CellFlow

/-- The radius of a ring, and the directions of its slots as unit vectors. -/
structure Ring (α : Type) where
  radius : α
  toward : Nat → Point α

namespace Ring

variable {α : Type} [Coordinate α]

def pointAt (r : Ring α) (centre : Point α) (slot : Nat) : Point α :=
  ⟨centre.x + r.radius * (r.toward slot).x, centre.y + r.radius * (r.toward slot).y⟩

def pi : Float := 3.141592653589793

/-- The share of a full turn that a slot stands at. -/
def share (slots : Value) (slot : Nat) : Except Fault Float :=
  match slots with
  | .float x =>
    if x == 0.0 then .error (.divisionByZero true) else .ok (Float.ofNat slot / x)
  | .bool b => if b then .ok (Float.ofNat slot) else .error (.divisionByZero false)
  | .int n =>
    if n = 0 then .error (.divisionByZero false) else .ok (Number.ratio slot n)
  | v => .error (.operands "/" "int" v.kind.name)

def direction (share : Float) : Point Float :=
  let angle := share * 2.0 * pi
  ⟨Float.cos angle, Float.sin angle⟩

def readRadius (v : Value) : Except Fault Float :=
  match Coordinate.ofNumber? v with
  | some r => r
  | none =>
    match v with
    | .text _ | .list _ => .error (.notRepeatable "numpy.float64")
    | _ => .error (.operands "*" v.kind.name "float")

def ofSettings (s : LayoutSettings) : Except Fault (Ring Float) := do
  let _ ← share s.artifactSlots 0
  let radius ← readRadius s.artifactRadius
  return ⟨radius, fun slot => match share s.artifactSlots slot with
    | .ok x => direction x
    | .error _ => ⟨0.0, 0.0⟩⟩

variable {ι : Type} [BEq ι] [NodeId ι]

/-- Places artifacts around the centres of their owners; the table counts how many each owner
has already. The ring is only asked for when there is an artifact to place. -/
def placeFrom (ring : Except Fault (Ring α)) (centres : Table ι (Point α)) :
    Table ι Nat → List (Node ι) → Outcome (List (ι × Point α))
  | _, [] => .ok []
  | counts, n :: nodes => do
    let owner ← n.owner
    let found := (NodeId.ofKey? (← owner.toKey)).bind fun id => (centres.get? id).map fun c => (id, c)
    match found with
    | none => throw (.unknownNode (.text owner.shown) [("artifact", NodeId.toValue n.id)])
    | some (id, centre) =>
      let k := (counts.get? id).getD 0
      let ring' ← ring
      let others ← placeFrom ring centres (counts.put id (k + 1)) nodes
      return (n.id, ring'.pointAt centre k) :: others

def place (ring : Except Fault (Ring α)) (centres : Table ι (Point α)) (nodes : List (Node ι)) :
    Outcome (List (ι × Point α)) :=
  placeFrom ring centres .empty nodes

end Ring

end CellFlow
