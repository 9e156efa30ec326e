import CellFlow.Data.Access
import CellFlow.Failure
import CellFlow.Figure.ColorName
import CellFlow.Text.LetterCase

/-!
Reading the color of a shape: a name, hexadecimal digits, a shade of gray as text, or three
or four components between zero and one. Transparency is read and not kept.
-/

set_option autoImplicit false

namespace CellFlow

structure Color where
  red : Nat
  green : Nat
  blue : Nat
  deriving DecidableEq, Repr, Inhabited

namespace Color

def ofNumber (n : Nat) : Color := ⟨n / 0x10000 % 0x100, n / 0x100 % 0x100, n % 0x100⟩

def text (c : Color) : String :=
  String.ofList ('#' :: (Text.hexDigits 2 c.red ++ Text.hexDigits 2 c.green ++ Text.hexDigits 2 c.blue))

def black : Color := ⟨0, 0, 0⟩

def ofCycle (n : Nat) : Color := ofNumber (cycleColors.getD (n % cycleColors.length) 0)

def cycleIndex? (s : List Char) : Option Nat :=
  match s with
  | 'C' :: d :: ds =>
    if (d :: ds).all Char.isDigit then some (Number.digitsValue ((d :: ds).map fun c => c.toNat - 48))
    else none
  | _ => none

def ofName? (s : String) : Option Color :=
  let exact := namedColor? s
  let found := if s.length = 1 then exact else exact <|> namedColor? (Text.lowered s)
  found.map ofNumber

def hexDigit? (c : Char) : Option Nat :=
  if c.isDigit then some (c.toNat - 48)
  else if 'a' ≤ c ∧ c ≤ 'f' then some (c.toNat - 87)
  else if 'A' ≤ c ∧ c ≤ 'F' then some (c.toNat - 55)
  else none

/-- The color of a list of hexadecimal digits: one or two for each of three components and
perhaps for the transparency. -/
def ofHex? : List Nat → Option Color
  | [r, g, b] | [r, g, b, _] => some ⟨17 * r, 17 * g, 17 * b⟩
  | [r, s, g, h, b, c] | [r, s, g, h, b, c, _, _] => some ⟨16 * r + s, 16 * g + h, 16 * b + c⟩
  | _ => none

def scale (x : Float) : Nat :=
  let v := x * 255.0
  let low := v.floor
  let n := low.toUInt64.toNat
  if v - low > 0.5 || (v - low == 0.5 && n % 2 == 1) then n + 1 else n

def inRange (x : Float) : Bool := 0.0 ≤ x && x ≤ 1.0

def ofText (s : String) : Outcome Color :=
  let fail (why : ColorFault) : Outcome Color := .error (.badColor (.text s) why)
  match cycleIndex? s.toList with
  | some n => .ok (ofCycle n)
  | none =>
    if Text.lowered s = "none" then .ok black
    else match ofName? s with
      | some c => .ok c
      | none =>
        match s.toList with
        | '#' :: d :: ds =>
          match (d :: ds).mapM hexDigit? with
          | some digits =>
            match ofHex? digits with
            | some c => .ok c
            | none => fail .digits
          | none => fail .form
        | cs =>
          match Number.readReal cs with
          | some x => if inRange x then .ok ⟨scale x, scale x, scale x⟩ else fail .gray
          | none => fail .form

def components? (xs : List Value) : Option (List Float) :=
  xs.mapM fun x =>
    match x.real? with
    | some (.ok r) => some r
    | _ => none

def ofComponents (v : Value) (xs : List Value) : Outcome Color :=
  if xs.length ≠ 3 ∧ xs.length ≠ 4 then .error (.badColor v .components)
  else match components? xs with
    | none => .error (.badColor v .form)
    | some rs =>
      match rs with
      | r :: g :: b :: _ =>
        if rs.all inRange then .ok ⟨scale r, scale g, scale b⟩ else .error (.badColor v .range)
      | _ => .error (.badColor v .components)

/-- The color that fills a shape; null stands for the first of the cycle. -/
def ofValue (v : Value) : Outcome Color :=
  match v with
  | .null => .ok (ofCycle 0)
  | .text s => ofText s
  | .list xs => ofComponents v xs
  | .object fs => ofComponents v (fs.map fun f => f.1.toValue)
  | _ => .error (.badColor v .form)

end Color

end CellFlow
