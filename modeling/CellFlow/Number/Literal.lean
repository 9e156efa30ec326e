import CellFlow.Text.Blank
import CellFlow.Text.Digit

/-!
Numbers read from text: blanks around them, decimal digits of any script, single
underscores between digits, and for reals a fraction, an exponent or a special word.
-/

set_option autoImplicit false

namespace CellFlow.Number

open CellFlow.Text

/-- The blanks that may stand around a number: all but the information separators. -/
def isMargin (c : Char) : Bool := isBlank c && !(0x1C ≤ c.toNat && c.toNat ≤ 0x1F)

def withoutMargins (s : List Char) : List Char :=
  ((s.dropWhile isMargin).reverse.dropWhile isMargin).reverse

def moreDigits : List Char → List Nat × List Char
  | [] => ([], [])
  | [c] =>
    match digitValue? c with
    | some d => ([d], [])
    | none => ([], [c])
  | c :: e :: r =>
    match digitValue? c, digitValue? e with
    | some d, _ => let (ds, rest) := moreDigits (e :: r); (d :: ds, rest)
    | none, some d =>
      if c = '_' then let (ds, rest) := moreDigits r; (d :: ds, rest)
      else ([], c :: e :: r)
    | none, none => ([], c :: e :: r)

def takeDigits : List Char → List Nat × List Char
  | [] => ([], [])
  | c :: r =>
    match digitValue? c with
    | some d => let (ds, rest) := moreDigits r; (d :: ds, rest)
    | none => ([], c :: r)

def digitsValue (ds : List Nat) : Nat := ds.foldl (fun n d => 10 * n + d) 0

def takeSign : List Char → Bool × List Char
  | '-' :: r => (true, r)
  | '+' :: r => (false, r)
  | s => (false, s)

inductive IntegerText where
  | malformed : IntegerText
  | tooLong (digits : Nat) : IntegerText
  | value (n : Int) : IntegerText
  deriving DecidableEq, Repr

def maxDigits : Nat := 4300

/-- An integer in a text. How many digits it starts with is looked at before what follows
them, unless that is an underscore. -/
def readInteger (s : List Char) : IntegerText :=
  let (negative, r) := takeSign (withoutMargins s)
  match takeDigits r with
  | ([], _) => .malformed
  | (_, '_' :: _) => .malformed
  | (ds, rest) =>
    if maxDigits < ds.length then .tooLong ds.length
    else if !rest.isEmpty then .malformed
    else .value (if negative then -(digitsValue ds : Int) else digitsValue ds)

/-- The double nearest to digits * 10^exponent. Powers far outside the range of doubles
are decided by the count of digits alone. -/
def ofDecimal (ds : List Nat) (exponent : Int) : Float :=
  let ds := ds.dropWhile (· == 0)
  let lead := exponent + ds.length
  if ds.isEmpty || lead < -400 then 0.0
  else if 400 < lead then 1.0 / 0.0
  else Float.ofScientific (digitsValue ds) (exponent < 0) exponent.natAbs

def lowerAscii (s : List Char) : List Char := s.map Char.toLower

def takeExponent : List Char → Option (Int × List Char)
  | [] => some (0, [])
  | c :: r =>
    if c = 'e' ∨ c = 'E' then
      let (negative, r) := takeSign r
      match takeDigits r with
      | ([], _) => none
      | (ds, rest) => some (if negative then -(digitsValue ds : Int) else digitsValue ds, rest)
    else some (0, c :: r)

def takeMagnitude (s : List Char) : Option (Float × List Char) :=
  let (whole, r) := takeDigits s
  let (fraction, r) := match r with
    | '.' :: t => takeDigits t
    | _ => ([], r)
  if whole.isEmpty && fraction.isEmpty then none
  else (takeExponent r).map fun (e, rest) =>
    (ofDecimal (whole ++ fraction) (e - fraction.length), rest)

def readReal (s : List Char) : Option Float :=
  let (negative, r) := takeSign (withoutMargins s)
  let size : Option Float :=
    if lowerAscii r = "inf".toList ∨ lowerAscii r = "infinity".toList then some (1.0 / 0.0)
    else if lowerAscii r = "nan".toList then some (0.0 / 0.0)
    else match takeMagnitude r with
      | some (x, []) => some x
      | _ => none
  size.map fun x => if negative then -x else x

end CellFlow.Number
