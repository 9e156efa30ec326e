import CellFlow.Figure.Resolution

/-!
The width and the height of a figure, as they are asked for: two sides in inches, or in the
unit that a third element names. A side that is null takes the standard one.
-/

set_option autoImplicit false

namespace CellFlow

/-- The lengths of nested lists, from the outside on, as deep as they agree. -/
structure Grid where
  lengths : List Nat
  isRegular : Bool
  deriving DecidableEq, Repr

namespace Grid

def common : List Nat → List Nat → List Nat
  | m :: ms, n :: ns => if m = n then m :: common ms ns else []
  | _, _ => []

def meet (g h : Grid) : Grid :=
  ⟨common g.lengths h.lengths, g.isRegular && h.isRegular && g.lengths == h.lengths⟩

mutual

def ofValue : Value → Grid
  | .list xs =>
    match ofElements xs with
    | some g => ⟨xs.length :: g.lengths, g.isRegular⟩
    | none => ⟨[0], true⟩
  | _ => ⟨[], true⟩

def ofElements : List Value → Option Grid
  | [] => none
  | x :: xs =>
    match ofElements xs with
    | some g => some ((ofValue x).meet g)
    | none => some (ofValue x)

end

end Grid

mutual

def Value.leaves : Value → List Value
  | .list xs => Value.leavesOf xs
  | v => [v]

def Value.leavesOf : List Value → List Value
  | [] => []
  | x :: xs => Value.leaves x ++ Value.leavesOf xs

end

namespace Figure

/-- What encloses the sides of a figure where they are shown: those of whole settings stand
between parentheses, those given by themselves between brackets. -/
inductive Enclosure where
  | brackets | parentheses
  deriving DecidableEq, Repr

def Enclosure.shown (e : Enclosure) (v : Value) : String :=
  match e, v with
  | .parentheses, .list [x] => "(" ++ x.literal ++ ",)"
  | .parentheses, .list xs => "(" ++ ", ".intercalate (xs.map Value.literal) ++ ")"
  | _, v => v.literal

def standardWidth : Float := 6.4

def standardHeight : Float := 4.8

def perInch (side : Value) (units : Float) : Except Fault Value :=
  match side with
  | .null => .ok .null
  | v =>
    match v.real? with
    | some r => r.map fun x => .float (x / units)
    | none => .error (.operands "/" v.kind.name "float")

def toInches (width height unit : Value) : Outcome (Value × Value) :=
  let both (units : Float) : Outcome (Value × Value) := do
    let width ← perInch width units
    return (width, ← perInch height units)
  if unit.alike (.text "in") then .ok (width, height)
  else if unit.alike (.text "cm") then both 2.54
  else if unit.alike (.text "px") then both resolution
  else .error (.badFigureUnit unit)

def sides (e : Enclosure) (v : Value) : Outcome (Value × Value) := do
  let _ ← v.length
  match ← v.elements with
  | [width, height] => return (width, height)
  | [width, height, unit] => toInches width height unit
  | _ => throw (.badFigureForm (e.shown v))

/-- Numbers that fit into a machine word; integers do so with their sign or without one. -/
def isWord : Value → Bool
  | .bool _ => true
  | .int n => -(Int.pow 2 63) ≤ n && n < Int.pow 2 64
  | .float _ => true
  | _ => false

def isLength (x : Float) : Bool := x.isFinite && !(x < 0.0)

def lengthOf (v : Value) : Except Fault Float :=
  match v.real? with
  | some r => r
  | none => .error (.operands "+" "int" v.kind.name)

/-- Both sides as lengths, of which zero has no sign. All that they hold must be lengths before
they are looked at as single ones. -/
def toLengths (width height : Value) : Outcome (Float × Float) := do
  let both := Value.list [width, height]
  let grid := Grid.ofValue both
  if !grid.isRegular then throw (.unevenSides grid.lengths)
  if !both.leaves.all isWord then throw (.fault .notFiniteOrNot)
  let lengths ← (both.leaves.mapM lengthOf : Except Fault (List Float))
  if !lengths.all isLength then throw (.badFigureSize (Enclosure.parentheses.shown both))
  let width ← lengthOf width
  return (0.0 + width, 0.0 + (← lengthOf height))

def readSize (e : Enclosure) (v : Value) : Outcome (Float × Float) := do
  match v with
  | .null => return (standardWidth, standardHeight)
  | v =>
    match ← sides e v with
    | (.null, .null) => throw .noSides
    | (.null, height) => toLengths (.float standardWidth) height
    | (width, .null) => toLengths width (.float standardHeight)
    | (width, height) => toLengths width height

end Figure

end CellFlow
