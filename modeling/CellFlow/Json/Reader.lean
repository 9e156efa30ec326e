import CellFlow.Data.Value
import CellFlow.Number.Literal

/-!
Reading JSON text. Beside the standard the words NaN, Infinity and -Infinity are numbers,
and the last of equal keys counts. A number without fraction and exponent is an integer.
A surrogate escape without its partner becomes the replacement character. Lists and objects
may be nested only so deep.
-/

set_option autoImplicit false

namespace CellFlow.Json

inductive Complaint where
  | value | name | colon | comma | unterminated | control | escape | unicodeEscape | extra | mark
  deriving DecidableEq, Repr

def Complaint.message : Complaint → String
  | .value => "Expecting value"
  | .name => "Expecting property name enclosed in double quotes"
  | .colon => "Expecting ':' delimiter"
  | .comma => "Expecting ',' delimiter"
  | .unterminated => "Unterminated string starting at"
  | .control => "Invalid control character at"
  | .escape => "Invalid \\escape"
  | .unicodeEscape => "Invalid \\uXXXX escape"
  | .extra => "Extra data"
  | .mark => "Unexpected UTF-8 BOM (decode using utf-8-sig)"

inductive Nest where
  | list | object
  deriving DecidableEq, Repr

def Nest.message : Nest → String
  | .list => "maximum recursion depth exceeded while decoding a JSON array from a unicode string"
  | .object => "maximum recursion depth exceeded while decoding a JSON object from a unicode string"

/-- Where reading stopped, by the number of characters that were left. -/
inductive Stop where
  | malformed (complaint : Complaint) (left : Nat) : Stop
  | tooManyDigits (digits : Nat) : Stop
  | tooDeep (nest : Nest) : Stop
  deriving DecidableEq, Repr

abbrev Step (α : Type) : Type := Except Stop (α × List Char)

def complain {α : Type} (c : Complaint) (rest : List Char) : Step α :=
  .error (.malformed c rest.length)

def isSpace (c : Char) : Bool := c = ' ' ∨ c = '\t' ∨ c = '\n' ∨ c = '\r'

def skip (s : List Char) : List Char := s.dropWhile isSpace

def hexValue? (c : Char) : Option Nat :=
  if c.isDigit then some (c.toNat - 48)
  else if 'a' ≤ c ∧ c ≤ 'f' then some (c.toNat - 87)
  else if 'A' ≤ c ∧ c ≤ 'F' then some (c.toNat - 55)
  else none

def hexUnit? (a b c d : Char) : Option Nat := do
  let a ← hexValue? a
  let b ← hexValue? b
  let c ← hexValue? c
  let d ← hexValue? d
  return ((a * 16 + b) * 16 + c) * 16 + d

def escaped? : Char → Option Char
  | '"' => some '"'
  | '\\' => some '\\'
  | '/' => some '/'
  | 'b' => some '\x08'
  | 'f' => some '\x0c'
  | 'n' => some '\n'
  | 'r' => some '\r'
  | 't' => some '\t'
  | _ => none

def isHighUnit (n : Nat) : Bool := 0xD800 ≤ n && n < 0xDC00

def isLowUnit (n : Nat) : Bool := 0xDC00 ≤ n && n < 0xE000

def joinUnits : List Nat → List Char
  | [] => []
  | [n] => [if isHighUnit n || isLowUnit n then '\uFFFD' else Char.ofNat n]
  | n :: k :: ns =>
    if isHighUnit n && isLowUnit k then
      Char.ofNat (0x10000 + (n - 0xD800) * 0x400 + (k - 0xDC00)) :: joinUnits ns
    else
      (if isHighUnit n || isLowUnit n then '\uFFFD' else Char.ofNat n) :: joinUnits (k :: ns)

/-- The units up to the closing quote, and the text behind it; `start` is the text from the
opening quote on. -/
def readUnits (start : List Char) (units : List Nat) : List Char → Step (List Nat)
  | [] => complain .unterminated start
  | ['\\'] => complain .unterminated start
  | '\\' :: 'u' :: w :: x :: y :: z :: v :: t =>
    match hexUnit? w x y z with
    | some n => readUnits start (n :: units) (v :: t)
    | none => complain .unicodeEscape ('u' :: w :: x :: y :: z :: v :: t)
  | '\\' :: e :: t =>
    if e = 'u' then complain .unicodeEscape (e :: t)
    else match escaped? e with
      | some c => readUnits start (c.toNat :: units) t
      | none => complain .escape ('\\' :: e :: t)
  | c :: t =>
    if c = '"' then .ok (units.reverse, t)
    else if c.toNat < 0x20 then complain .control (c :: t)
    else readUnits start (c.toNat :: units) t

def readText (start s : List Char) : Step String :=
  (readUnits start [] s).map fun (units, rest) => (String.ofList (joinUnits units), rest)

def asciiDigits (s : List Char) : List Nat × List Char :=
  ((s.takeWhile Char.isDigit).map fun c => c.toNat - 48, s.dropWhile Char.isDigit)

def readFraction : List Char → Option (List Nat × List Char)
  | '.' :: r =>
    match asciiDigits r with
    | ([], _) => none
    | p => some p
  | _ => none

def readExponent : List Char → Option (Int × List Char)
  | c :: r =>
    if c = 'e' ∨ c = 'E' then
      let (negative, r) := Number.takeSign r
      match asciiDigits r with
      | ([], _) => none
      | (ds, rest) =>
        some (if negative then -(Number.digitsValue ds : Int) else Number.digitsValue ds, rest)
    else none
  | [] => none

def readNumber (negative : Bool) (start s : List Char) : Step Value :=
  let whole : List Nat × List Char :=
    match s with
    | '0' :: r => ([0], r)
    | _ => asciiDigits s
  if whole.1.isEmpty then complain .value start
  else
    let (fraction, r) := match readFraction whole.2 with
      | some (ds, r) => (some ds, r)
      | none => (none, whole.2)
    let (exponent, r) := match readExponent r with
      | some (e, r) => (some e, r)
      | none => (none, r)
    match fraction, exponent with
    | none, none =>
      if Number.maxDigits < whole.1.length then .error (.tooManyDigits whole.1.length)
      else
        let n : Int := Number.digitsValue whole.1
        .ok (.int (if negative then -n else n), r)
    | _, _ =>
      let ds := fraction.getD []
      let x := Number.ofDecimal (whole.1 ++ ds) (exponent.getD 0 - ds.length)
      .ok (.float (if negative then -x else x), r)

def words : List (List Char × Value) :=
  [("null".toList, .null), ("true".toList, .bool true), ("false".toList, .bool false),
   ("NaN".toList, .float (0.0 / 0.0)), ("Infinity".toList, .float (1.0 / 0.0)),
   ("-Infinity".toList, .float (-(1.0 / 0.0)))]

def readWord? (s : List Char) : Option (Value × List Char) :=
  words.findSome? fun (w, v) => if w.isPrefixOf s then some (v, s.drop w.length) else none

mutual

/-- A value at the front of the text. The first number bounds the count of parts, the second
one the nesting. -/
def readValue : Nat → Nat → List Char → Except Stop (Value × List Char)
  | 0, _, s => complain .value s
  | _ + 1, _, [] => complain .value []
  | fuel + 1, depth, c :: r =>
    if c = '"' then do
      let (t, rest) ← readText (c :: r) r
      return (.text t, rest)
    else if c = '[' then
      if depth = 0 then .error (.tooDeep .list)
      else match skip r with
      | ']' :: rest => .ok (.list [], rest)
      | s => do
        let (xs, rest) ← readItems fuel (depth - 1) s
        return (.list xs, rest)
    else if c = '\x7b' then
      if depth = 0 then .error (.tooDeep .object)
      else match skip r with
      | '\x7d' :: rest => .ok (.object [], rest)
      | s => do
        let (fs, rest) ← readMembers fuel (depth - 1) [] s
        return (.object fs, rest)
    else match readWord? (c :: r) with
      | some p => .ok p
      | none => if c = '-' then readNumber true (c :: r) r else readNumber false (c :: r) (c :: r)

def readItems : Nat → Nat → List Char → Except Stop (List Value × List Char)
  | 0, _, s => complain .value s
  | fuel + 1, depth, s => do
    let (x, r) ← readValue fuel depth s
    match skip r with
    | ']' :: rest => return ([x], rest)
    | ',' :: rest =>
      let (xs, rest) ← readItems fuel depth (skip rest)
      return (x :: xs, rest)
    | r => complain .comma r

def readMembers : Nat → Nat → Fields → List Char → Except Stop (Fields × List Char)
  | 0, _, _, s => complain .value s
  | fuel + 1, depth, fs, s => do
    let (key, r) ← match s with
      | '"' :: r => readText s r
      | _ => complain .name s
    let r ← match skip r with
      | ':' :: r => pure (skip r)
      | r => .error (.malformed .colon r.length)
    let (v, r) ← readValue fuel depth r
    let fs := Fields.set fs (.text key) v
    match skip r with
    | '\x7d' :: rest => return (fs, rest)
    | ',' :: rest => readMembers fuel depth fs (skip rest)
    | r => complain .comma r

end

def maxDepth : Nat := 985

def readAll (s : List Char) : Except Stop Value := do
  if s.head? = some '\uFEFF' then throw (.malformed .mark s.length)
  let (v, rest) ← readValue (2 * s.length + 2) maxDepth (skip s)
  match skip rest with
  | [] => return v
  | r => throw (.malformed .extra r.length)

structure ReadError where
  complaint : Complaint
  line : Nat
  column : Nat
  index : Nat
  deriving DecidableEq, Repr

def ReadError.at (s : List Char) (c : Complaint) (left : Nat) : ReadError :=
  let before := s.take (s.length - left)
  ⟨c, before.count '\n' + 1, (before.reverse.takeWhile (· ≠ '\n')).length + 1, before.length⟩

def ReadError.message (e : ReadError) : String :=
  s!"{e.complaint.message}: line {e.line} column {e.column} (char {e.index})"

inductive ReadFailure where
  | malformed (e : ReadError) : ReadFailure
  | tooManyDigits (digits : Nat) : ReadFailure
  | tooDeep (nest : Nest) : ReadFailure
  deriving DecidableEq, Repr

def read (text : String) : Except ReadFailure Value :=
  match readAll text.toList with
  | .ok v => .ok v
  | .error (.malformed c left) => .error (.malformed (.at text.toList c left))
  | .error (.tooManyDigits n) => .error (.tooManyDigits n)
  | .error (.tooDeep nest) => .error (.tooDeep nest)

end CellFlow.Json
