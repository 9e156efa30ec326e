/-!
The exact value behind a double: a sign and a magnitude m * 2^q, with the comparisons
and conversions that need no rounding.
-/

set_option autoImplicit false

namespace CellFlow.Number

/-- The magnitude of a finite double, m * 2^q. -/
structure Magnitude where
  m : Nat
  q : Int
  /-- The neighbour below is half as far away as the neighbour above. -/
  narrow : Bool
  deriving DecidableEq, Repr

def Magnitude.ofBits (b : UInt64) : Magnitude :=
  let e := ((b >>> 52) &&& 0x7FF).toNat
  let f := (b &&& 0xFFFFFFFFFFFFF).toNat
  if e = 0 then ⟨f, -1074, false⟩ else ⟨Nat.pow 2 52 + f, (e : Int) - 1075, f = 0 ∧ 1 < e⟩

def isNegative (x : Float) : Bool := x.toBits >>> 63 == 1

def magnitude (x : Float) : Magnitude := .ofBits x.toBits

def Magnitude.floor (x : Magnitude) : Nat :=
  if 0 ≤ x.q then x.m * Nat.pow 2 x.q.toNat else x.m / Nat.pow 2 (-x.q).toNat

def Magnitude.isWhole (x : Magnitude) : Bool :=
  0 ≤ x.q || x.m % Nat.pow 2 (-x.q).toNat == 0

def truncate (x : Float) : Int :=
  let n := (magnitude x).floor
  if isNegative x then -(n : Int) else n

def sameNumber (n : Int) (x : Float) : Bool :=
  x.isFinite && (magnitude x).isWhole && truncate x == n

def isBelow (n : Int) (x : Float) : Bool :=
  if x.isNaN then false
  else if x.isInf then 0.0 < x
  else
    let v := magnitude x
    let m : Int := if isNegative x then -(v.m : Int) else v.m
    n * Int.pow 2 (-v.q).toNat < m * Int.pow 2 v.q.toNat

def isAbove (n : Int) (x : Float) : Bool := !x.isNaN && !isBelow n x && !sameNumber n x

def nearest? (n : Int) : Option Float :=
  let x := Float.ofInt n
  if x.isInf then none else some x

/-- The double nearest to n / d. The quotient is cut to 62 bits or so, and its last bit is set
when anything is cut off, so that rounding cannot mistake it for a tie. -/
def quotient (n d : Nat) : Float :=
  let scale : Int := 62 + d.log2 - n.log2
  let top := n * Nat.pow 2 scale.toNat
  let bottom := d * Nat.pow 2 (-scale).toNat
  let q := top / bottom
  (UInt64.ofNat (if top % bottom = 0 then q else q ||| 1)).toFloat.scaleB (-scale)

def ratio (n : Nat) (d : Int) : Float :=
  let x := quotient n d.natAbs
  if d < 0 then -x else x

end CellFlow.Number
