import CellFlow.Figure.Resolution
import CellFlow.Figure.Shape

/-!
Fitting the parts of a figure: the axes keep a share of its width and height, in the
proportions of their limits, and everything that is drawn must have a place on them.
-/

set_option autoImplicit false

namespace CellFlow.Figure

def axesShare : Frame Float := ⟨0.125, 0.9, 0.11, 0.88⟩

def axesWidth : Float := axesShare.right - axesShare.left

def axesHeight : Float := axesShare.top - axesShare.bottom

/-- Where a coordinate is before the axes have limits of their own, when they go from zero to
one: in dots along a side of so many inches. The other coordinate adds nothing as long as it
is finite. -/
def dotAt (start share inches x other : Float) : Float :=
  x * (share * (inches * resolution)) + other * 0.0 + start * (inches * resolution)

def hasPlace (size : Float × Float) (p : Point Float) : Bool :=
  (dotAt axesShare.left axesWidth size.1 p.x p.y).isFinite &&
    (dotAt axesShare.bottom axesHeight size.2 p.y p.x).isFinite

def isBeyondSquares (x : Float) : Bool := x.isFinite && !(x * x).isFinite

def isFlat (size : Float × Float) : Bool := size.1 * resolution == 0.0 || size.2 * resolution == 0.0

/-- An arrow is cut by circles around its ends, which needs the place of its start, and is
then found again on the figure. -/
def checkArrow (size : Float × Float) (start : Point Float) (startGap stopGap : Float) :
    Outcome Unit := do
  if isBeyondSquares startGap || isBeyondSquares stopGap then throw (.fault .powerBeyondDoubles)
  if (startGap != 0.0 || stopGap != 0.0) && !hasPlace size start then throw .startlessArrow
  if isFlat size then throw .flatFigure

def isFar (x : Float) : Bool := x.isFinite && !(2.0 * x).isFinite

def outlinePad : Float := 2.0

/-- A rounded corner is bounded by way of the doubles of its coordinates; one that is nowhere
is left out. -/
def checkCorner (x y : Float) : Outcome Unit :=
  if x.isFinite && y.isFinite && (isFar x || isFar y) then .error .farCorner else .ok ()

def checkShape : Shape Float → Outcome Unit
  | .disc .. => .ok ()
  | .box left bottom width height => do
    let x := left - outlinePad
    let y := bottom - outlinePad
    let right := x + (width + 2.0 * outlinePad)
    let top := y + (height + 2.0 * outlinePad)
    checkCorner right y
    checkCorner right top
    checkCorner x top
    checkCorner x y

def distance (a b : Float) : Float := Coordinate.largest (a - b).abs [1e-30]

/-- The shares of width and height that axes take whose height is to be so many times their
width, on a figure whose height is so many times its width. -/
def shrink (axes figure : Float) : Float × Float :=
  let height := axesWidth * axes / figure
  if height ≤ axesHeight then (axesWidth, height) else (axesHeight * figure / axes, axesHeight)

def checkFit (title : String) (size : Float × Float) (f : Frame Float) : Outcome Unit := do
  checkDots size resolution
  let down := distance f.top f.bottom
  let axes := down / distance f.right f.left
  let figure := size.2 * resolution / (size.1 * resolution)
  if axes ≤ 0.0 || figure ≤ 0.0 then throw .flatAxes
  let (width, height) := shrink axes figure
  if !title.isEmpty then
    if width.isNaN || height.isNaN then throw (.fault .integerOfNaN)
    if !down.isFinite then throw .endlessAxis
  if isFlat size then throw .flatFigure

end CellFlow.Figure
