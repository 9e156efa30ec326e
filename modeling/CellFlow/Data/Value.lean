import CellFlow.Number.Shortest
import CellFlow.Text.Quoted

/-!
Values of notebook documents: outputs, labels, display data and settings hold them.
Integers have any size and stay apart from doubles; objects keep the order of their keys.
-/

set_option autoImplicit false

namespace CellFlow

inductive Key where
  | null : Key
  | bool (b : Bool) : Key
  | int (n : Int) : Key
  | float (x : Float) : Key
  | text (s : String) : Key
  deriving Inhabited, Repr

instance : Coe String Key := ⟨.text⟩

inductive Value where
  | null : Value
  | bool (b : Bool) : Value
  | int (n : Int) : Value
  | float (x : Float) : Value
  | text (s : String) : Value
  | list (items : List Value) : Value
  | object (fields : List (Key × Value)) : Value
  deriving Inhabited, Repr

abbrev Fields := List (Key × Value)

inductive Kind where
  | null | bool | int | float | text | list | object
  deriving DecidableEq, Repr

def Kind.name : Kind → String
  | .null => "NoneType"
  | .bool => "bool"
  | .int => "int"
  | .float => "float"
  | .text => "str"
  | .list => "list"
  | .object => "dict"

/-- A truth value counts as the number one or zero. -/
def Value.ofBool (b : Bool) : Int := if b then 1 else 0

namespace Key

def toValue : Key → Value
  | .null => .null
  | .bool b => .bool b
  | .int n => .int n
  | .float x => .float x
  | .text s => .text s

def kind : Key → Kind
  | .null => .null
  | .bool _ => .bool
  | .int _ => .int
  | .float _ => .float
  | .text _ => .text

/-- Numbers are alike when they denote the same number, whatever their kinds. -/
def alike : Key → Key → Bool
  | .null, .null => true
  | .text s, .text t => s == t
  | .bool a, .bool b => a == b
  | .bool a, .int n => Value.ofBool a == n
  | .bool a, .float x => Number.sameNumber (Value.ofBool a) x
  | .int n, .bool b => n == Value.ofBool b
  | .int m, .int n => m == n
  | .int n, .float x => Number.sameNumber n x
  | .float x, .bool b => Number.sameNumber (Value.ofBool b) x
  | .float x, .int n => Number.sameNumber n x
  | .float x, .float y => x == y
  | _, _ => false

def isNaN : Key → Bool
  | .float x => x.isNaN
  | _ => false

/-- Keys stand for the same field when they are alike; what is no number is one key. -/
instance : BEq Key := ⟨fun j k => alike j k || j.isNaN && k.isNaN⟩

@[simp] theorem text_beq_text (s t : String) : (Key.text s == Key.text t) = (s == t) := by
  simp [BEq.beq, alike, isNaN]

/-- Which of two keys comes first, where that is known: numbers go by size, texts by their
characters. -/
def less? : Key → Key → Option Bool
  | .text s, .text t => some (s < t)
  | .bool a, .bool b => some (!a && b)
  | .bool a, .int n => some (Value.ofBool a < n)
  | .int n, .bool b => some (n < Value.ofBool b)
  | .int m, .int n => some (m < n)
  | .bool a, .float x => some (Number.isBelow (Value.ofBool a) x)
  | .int n, .float x => some (Number.isBelow n x)
  | .float x, .bool b => some (Number.isAbove (Value.ofBool b) x)
  | .float x, .int n => some (Number.isAbove n x)
  | .float x, .float y => some (x < y)
  | _, _ => none

def literal : Key → String
  | .null => "None"
  | .bool true => "True"
  | .bool false => "False"
  | .int n => toString n
  | .float x => Number.plain.text x
  | .text s => Text.quoted s

def shown : Key → String
  | .text s => s
  | k => k.literal

end Key

namespace Value

def kind : Value → Kind
  | .null => .null
  | .bool _ => .bool
  | .int _ => .int
  | .float _ => .float
  | .text _ => .text
  | .list _ => .list
  | .object _ => .object

def truthy : Value → Bool
  | .null => false
  | .bool b => b
  | .int n => n != 0
  | .float x => x != 0.0
  | .text s => !s.isEmpty
  | .list xs => !xs.isEmpty
  | .object fs => !fs.isEmpty

def key? : Value → Option Key
  | .null => some .null
  | .bool b => some (.bool b)
  | .int n => some (.int n)
  | .float x => some (.float x)
  | .text s => some (.text s)
  | .list _ => none
  | .object _ => none

def alikeAtoms (a b : Value) : Bool :=
  match a.key?, b.key? with
  | some j, some k => j.alike k
  | _, _ => false

mutual

/-- Equality of values: lists element by element, objects key by key in any order. -/
def alike : Value → Value → Bool
  | .list xs, .list ys => alikeLists xs ys
  | .object fs, .object gs => fs.length == gs.length && alikeFields fs gs
  | a, b => alikeAtoms a b

def alikeLists : List Value → List Value → Bool
  | [], [] => true
  | x :: xs, y :: ys => alike x y && alikeLists xs ys
  | _, _ => false

def alikeFields : Fields → Fields → Bool
  | [], _ => true
  | (k, v) :: fs, gs =>
    (match gs.lookup k with
      | some w => alike v w
      | none => false) && alikeFields fs gs

end

mutual

def literal : Value → String
  | .null => Key.null.literal
  | .bool b => (Key.bool b).literal
  | .int n => (Key.int n).literal
  | .float x => (Key.float x).literal
  | .text s => (Key.text s).literal
  | .list xs => "[" ++ ", ".intercalate (literals xs) ++ "]"
  | .object fs => "\x7b" ++ ", ".intercalate (literalFields fs) ++ "\x7d"

def literals : List Value → List String
  | [] => []
  | x :: xs => literal x :: literals xs

def literalFields : Fields → List String
  | [] => []
  | (k, v) :: fs => (k.literal ++ ": " ++ literal v) :: literalFields fs

end

def shown : Value → String
  | .text s => s
  | v => v.literal

end Value

/-- Sets a field: a present key keeps its place and itself. -/
def Fields.set (fs : Fields) (key : Key) (v : Value) : Fields :=
  if fs.any (·.1 == key) then fs.map fun f => if f.1 == key then (f.1, v) else f
  else fs ++ [(key, v)]

def Fields.get? (fs : Fields) (key : Key) : Option Value := fs.lookup key

def Fields.getD (fs : Fields) (key : Key) (v : Value) : Value := (fs.lookup key).getD v

def Fields.setDefault (fs : Fields) (key : Key) (v : Value) : Fields :=
  if fs.any (·.1 == key) then fs else fs ++ [(key, v)]

theorem Fields.get?_setDefault_of_ne {fs : Fields} {key other : String} (h : key ≠ other) (v : Value) :
    Fields.get? (Fields.setDefault fs other v) key = Fields.get? fs key := by
  unfold Fields.setDefault
  split
  · rfl
  · have hne : (Key.text key == Key.text other) = false := by simpa using h
    rw [Fields.get?, Fields.get?, List.lookup_append]
    simp [List.lookup_cons, hne]

theorem Fields.getD_setDefault_of_ne {fs : Fields} {key other : String} (h : key ≠ other) (v w : Value) :
    Fields.getD (Fields.setDefault fs other v) key w = Fields.getD fs key w :=
  congrArg (·.getD w) (Fields.get?_setDefault_of_ne h v)

end CellFlow
