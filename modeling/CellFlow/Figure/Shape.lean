import CellFlow.Graph.Node
import CellFlow.Layout.Coordinate

/-!
The geometry of a figure: the shapes of nodes and the frame around them.
-/

set_option autoImplicit false

namespace CellFlow

/-- Cells and groups are drawn as boxes, artifacts as discs. A box is the rectangle that a node takes up;
the outline around it is painted a little further out. -/
inductive Shape (α : Type) where
  | box (left bottom width height : α) : Shape α
  | disc (centre : Point α) (radius : α) : Shape α
  deriving DecidableEq, Repr

/-- The limits of the axes: the horizontal ones from left to right, the vertical ones from
bottom to top. -/
structure Frame (α : Type) where
  left : α
  right : α
  bottom : α
  top : α
  deriving DecidableEq, Repr

variable {α : Type} [Coordinate α]

open Coordinate

def Shape.around (kind : NodeKind) (centre : Point α) (size : Size α) : Shape α :=
  match kind with
  | .secondary => .disc centre (half size.width)
  | .primary | .group =>
    .box (centre.x - half size.width) (centre.y - half size.height) size.width size.height

/-- The frame that leaves some room around all points, with the vertical axis pointing down;
the first point comes apart. -/
def Frame.around (room : α) (p : Point α) (points : List (Point α)) : Frame α :=
  let xs := points.map (·.x)
  let ys := points.map (·.y)
  { left := smallest p.x xs - room
    right := largest p.x xs + room
    bottom := largest p.y ys + room
    top := smallest p.y ys - room }

end CellFlow
