import CellFlow.Failure
import CellFlow.Data.Access

/-!
The arithmetic of coordinates. Layouts are written once for any type with these operations
and computed with doubles.
-/

set_option autoImplicit false

namespace CellFlow

class Coordinate (α : Type) extends Add α, Sub α, Mul α, Zero α where
  ofInt? : Int → Option α
  ofFloat? : Float → Option α
  half : α → α
  less : α → α → Bool

instance : Coordinate Float where
  ofInt? := Number.nearest?
  ofFloat? := some
  half x := x / 2.0
  less x y := x < y

structure Point (α : Type) where
  x : α
  y : α
  deriving DecidableEq, Repr, Inhabited

structure Size (α : Type) where
  width : α
  height : α
  deriving DecidableEq, Repr, Inhabited

namespace Coordinate

variable {α : Type} [Coordinate α]

/-- The first of the largest elements, the given one if no other is larger. -/
def largest (a : α) (l : List α) : α := l.foldl (fun m b => if less m b then b else m) a

def smallest (a : α) (l : List α) : α := l.foldl (fun m b => if less b m then b else m) a

def orBeyond : Option α → Except Fault α
  | some x => .ok x
  | none => .error .beyondDoubles

/-- The coordinate in a numeric value; a text is not read. -/
def ofNumber? : Value → Option (Except Fault α)
  | .bool b => some (orBeyond (ofInt? (Value.ofBool b)))
  | .int n => some (orBeyond (ofInt? n))
  | .float x => some (orBeyond (ofFloat? x))
  | _ => none

def read (v : Value) : Except Fault α :=
  match ofNumber? v with
  | some r => r
  | none =>
    match v with
    | .text s =>
      match Number.readReal s.toList with
      | some x => orBeyond (ofFloat? x)
      | none => .error (.malformedReal s)
    | _ => .error (.notReal v.kind)

def leftOperand (v : Value) : Except Fault α :=
  match ofNumber? v with
  | some r => r
  | none =>
    match v with
    | .text _ => .error (.joinsOnly .text .float)
    | .list _ => .error (.joinsOnly .list .float)
    | _ => .error (.operands "+" v.kind.name "float")

def rightOperand (op : String) (v : Value) : Except Fault α :=
  match ofNumber? v with
  | some r => r
  | none => .error (.operands op "float" v.kind.name)

end Coordinate

end CellFlow
