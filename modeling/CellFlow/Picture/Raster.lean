import CellFlow.Figure.Draw

/-!
Painting figures on a grid of dots: tethers and arrows as lines, then the filled shapes. One
length counts the same along both axes; texts are not painted.
-/

set_option autoImplicit false

namespace CellFlow

structure Raster where
  width : Nat
  height : Nat
  bytes : ByteArray

namespace Raster

def maxSide : Nat := 16384

def dots (x : Float) : Nat := if x > 0.0 then min x.toUInt64.toNat maxSide else 0

def blank (width height : Nat) : Raster :=
  let size := 3 * width * height
  ⟨width, height, size.fold (fun _ _ b => b.push 255) (ByteArray.emptyWithCapacity size)⟩

/-- A dot outside the raster is left out. -/
def put (r : Raster) (x y : Nat) (c : Color) : Raster :=
  match r with
  | ⟨width, height, bytes⟩ =>
    if x < width && y < height then
      let i := 3 * (y * width + x)
      let bytes := bytes.set! i c.red.toUInt8
      let bytes := bytes.set! (i + 1) c.green.toUInt8
      ⟨width, height, bytes.set! (i + 2) c.blue.toUInt8⟩
    else ⟨width, height, bytes⟩

def fill (r : Raster) (left right top bottom : Nat) (test : Nat → Nat → Bool) (c : Color) : Raster :=
  (bottom - top).fold (fun j _ r =>
    (right - left).fold (fun i _ r =>
      if test (left + i) (top + j) then r.put (left + i) (top + j) c else r) r) r

end Raster

structure Scale where
  factor : Float
  left : Float
  top : Float
  deriving Repr

namespace Scale

def x (s : Scale) (v : Float) : Float := (v - s.left) * s.factor

def y (s : Scale) (v : Float) : Float := (v - s.top) * s.factor

def fit (f : Frame Float) (width height : Nat) : Scale :=
  let across := Float.ofNat width / (f.right - f.left).abs
  let down := Float.ofNat height / (f.bottom - f.top).abs
  ⟨if across < down then across else down, min f.left f.right, min f.top f.bottom⟩

def paintShape (s : Scale) (r : Raster) (shape : FilledShape) : Raster :=
  match shape.shape with
  | .box left bottom width height =>
    r.fill (Raster.dots (s.x left)) (Raster.dots (s.x (left + width))) (Raster.dots (s.y bottom))
      (Raster.dots (s.y (bottom + height))) (fun _ _ => true) shape.fill
  | .disc centre radius =>
    let cx := s.x centre.x
    let cy := s.y centre.y
    let far := radius * s.factor
    let inside (i j : Nat) : Bool :=
      let dx := Float.ofNat i - cx
      let dy := Float.ofNat j - cy
      dx * dx + dy * dy ≤ far * far
    r.fill (Raster.dots (cx - far)) (Raster.dots (cx + far + 1.0)) (Raster.dots (cy - far))
      (Raster.dots (cy + far + 1.0)) inside shape.fill

def paintLine (s : Scale) (c : Color) (r : Raster) (line : Point Float × Point Float) : Raster :=
  let x := s.x line.1.x
  let y := s.y line.1.y
  let dx := s.x line.2.x - x
  let dy := s.y line.2.y - y
  let steps := Raster.dots (max dx.abs dy.abs) + 1
  steps.fold (fun i _ r =>
    let part := Float.ofNat i / Float.ofNat steps
    r.put (Raster.dots (x + part * dx)) (Raster.dots (y + part * dy)) c) r

end Scale

namespace Figure

def lineColor : Color := .ofNumber 0x777777

def paint (f : Figure) (resolution : Float) : Raster :=
  let width := max 1 (Raster.dots (f.size.1 * resolution))
  let height := max 1 (Raster.dots (f.size.2 * resolution))
  let r := Raster.blank width height
  match f.frame with
  | none => r
  | some frame =>
    let s := Scale.fit frame width height
    let lines := f.tethers ++ f.arrows.map fun a => (a.start, a.stop)
    f.shapes.foldl s.paintShape (lines.foldl (s.paintLine lineColor) r)

end Figure

end CellFlow
