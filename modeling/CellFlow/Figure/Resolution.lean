import CellFlow.Data.Access
import CellFlow.Failure

/-!
The resolution of a picture: how many dots an inch of its figure takes. A picture needs a
positive resolution, and there is a limit to the dots along a side.
-/

set_option autoImplicit false

namespace CellFlow.Figure

def resolution : Float := 100.0

/-- The resolution that a value asks for; null, and the word for it, ask for that of figures. -/
def resolutionOf (v : Value) : Except Fault Float :=
  match v with
  | .null => .ok resolution
  | .text s => if s = "figure" then .ok resolution else .error (.notRepeatable "numpy.float64")
  | .list _ => .error (.notRepeatable "numpy.float64")
  | .object _ => .error (.operands "*" "float" v.kind.name)
  | v => v.toReal

def dotsAlong (inches resolution : Float) : Except Fault Int :=
  Value.toInteger (.float (inches * resolution))

def dotLimit : Int := Int.pow 2 23

def countBits : Nat := 32

def isCount (n : Int) : Bool := 0 ≤ n && n < Int.pow 2 countBits

def checkDots (size : Float × Float) (resolution : Float) : Outcome Unit := do
  let width ← dotsAlong size.1 resolution
  let height ← dotsAlong size.2 resolution
  if !isCount width || !isCount height then throw (.fault .notCounted)
  if resolution ≤ 0.0 then throw .noResolution
  if dotLimit ≤ width || dotLimit ≤ height then throw (.tooManyDots width height)

end CellFlow.Figure
