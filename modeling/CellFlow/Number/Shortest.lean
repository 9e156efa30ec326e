import CellFlow.Number.Binary

/-!
The fewest decimal digits that read back to a double, and the text made of them:
positional from 10^-4 up to below 10^16, scientific elsewhere.
-/

set_option autoImplicit false

namespace CellFlow.Number

structure Decimal where
  digits : Nat
  exponent : Int
  deriving DecidableEq, Repr

def Decimal.compareBinary (d : Decimal) (m : Nat) (q : Int) : Ordering :=
  compare (d.digits * Nat.pow 10 d.exponent.toNat * Nat.pow 2 (-q).toNat)
    (m * Nat.pow 2 q.toNat * Nat.pow 10 (-d.exponent).toNat)

/-- The decimal lies among the reals that round to the double, ties to even. -/
def Magnitude.readsBack (x : Magnitude) (d : Decimal) : Bool :=
  let low := d.compareBinary (if x.narrow then 4 * x.m - 1 else 4 * x.m - 2) (x.q - 2)
  let high := d.compareBinary (4 * x.m + 2) (x.q - 2)
  let closed := x.m % 2 == 0
  (low == .gt || closed && low == .eq) && (high == .lt || closed && high == .eq)

def Magnitude.scale (x : Magnitude) : Int :=
  let guess := ((x.m.log2 : Int) + x.q) * 30103 / 100000 - 1
  match [guess, guess + 1, guess + 2, guess + 3].find? fun k =>
      (Decimal.mk 1 k).compareBinary x.m x.q == .gt with
  | some k => k
  | none => guess + 4

def Magnitude.onGrid (x : Magnitude) (g : Int) : Nat :=
  (x.m * Nat.pow 2 x.q.toNat * Nat.pow 10 (-g).toNat) /
    (Nat.pow 2 (-x.q).toNat * Nat.pow 10 g.toNat)

/-- The neighbour on the grid of 10^g that reads back, the nearer of two, the even one
of two equally near. -/
def Magnitude.nearestOnGrid? (x : Magnitude) (g : Int) : Option Decimal :=
  let below : Decimal := ⟨x.onGrid g, g⟩
  let above : Decimal := ⟨x.onGrid g + 1, g⟩
  match x.readsBack below, x.readsBack above with
  | false, false => none
  | true, false => some below
  | false, true => some above
  | true, true =>
    match (Decimal.mk (2 * below.digits + 1) g).compareBinary (2 * x.m) x.q with
    | .gt => some below
    | .lt => some above
    | .eq => some (if below.digits % 2 = 0 then below else above)

/-- The decimal of fewest digits that reads back, for x not zero. -/
def Magnitude.shortest (x : Magnitude) : Decimal :=
  let k := x.scale
  match (List.range 17).findSome? fun (n : Nat) => x.nearestOnGrid? (k - (n : Int) - 1) with
  | some d => d
  | none => ⟨x.m * Nat.pow 2 x.q.toNat * Nat.pow 5 (-x.q).toNat, min x.q 0⟩

def zeros (n : Nat) : List Char := List.replicate n '0'

/-- The digits without the zeros at their end, which move into the exponent. -/
def stripZeros : Nat → Decimal → Decimal
  | 0, d => d
  | n + 1, d =>
    if d.digits ≠ 0 ∧ d.digits % 10 = 0 then stripZeros n ⟨d.digits / 10, d.exponent + 1⟩ else d

def Decimal.layout (d : Decimal) : List Char :=
  let ds := Nat.toDigits 10 d.digits
  let lead : Int := d.exponent + ds.length - 1
  if -4 ≤ lead ∧ lead < 16 then
    if 0 ≤ d.exponent then ds ++ zeros d.exponent.toNat ++ ['.', '0']
    else if 0 ≤ lead then ds.take (lead.toNat + 1) ++ '.' :: ds.drop (lead.toNat + 1)
    else '0' :: '.' :: (zeros (-lead - 1).toNat ++ ds)
  else
    let power := Nat.toDigits 10 lead.natAbs
    let power := if power.length < 2 then '0' :: power else power
    let rest := ds.drop 1
    ds.take 1 ++ (if rest.isEmpty then [] else '.' :: rest) ++
      'e' :: (if lead < 0 then '-' else '+') :: power

structure Spelling where
  nan : String
  infinity : String
  deriving DecidableEq, Repr

def plain : Spelling := ⟨"nan", "inf"⟩

def Spelling.text (s : Spelling) (x : Float) : String :=
  let sign := if isNegative x then "-" else ""
  if x.isNaN then s.nan
  else if x.isInf then sign ++ s.infinity
  else
    let v := magnitude x
    if v.m = 0 then sign ++ "0.0"
    else sign ++ String.ofList (stripZeros 17 v.shortest).layout

end CellFlow.Number
