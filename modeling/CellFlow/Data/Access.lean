import CellFlow.Data.Fault
import CellFlow.Number.Literal
import CellFlow.Text.Search

/-!
Taking a value for a number, a sequence, an object or a set of keys.
-/

set_option autoImplicit false

namespace CellFlow

def Key.toArgumentName : Key → Except Fault String
  | .text s => .ok s
  | _ => .error .notArgumentName

end CellFlow

namespace CellFlow.Value

/-- The whole number that a value stands for: a real is cut towards zero, a text is read. -/
def toInteger : Value → Except Fault Int
  | .bool b => .ok (ofBool b)
  | .int n => .ok n
  | .float x =>
    if x.isNaN then .error .integerOfNaN
    else if x.isInf then .error .integerOfInfinity
    else .ok (Number.truncate x)
  | .text s =>
    match Number.readInteger s.toList with
    | .value n => .ok n
    | .tooLong n => .error (.tooManyDigits n)
    | .malformed => .error (.malformedInteger s)
  | v => .error (.notInteger v.kind)

def realOfInt (n : Int) : Except Fault Float :=
  match Number.nearest? n with
  | some x => .ok x
  | none => .error .beyondDoubles

def toReal : Value → Except Fault Float
  | .bool b => realOfInt (ofBool b)
  | .int n => realOfInt n
  | .float x => .ok x
  | .text s =>
    match Number.readReal s.toList with
    | some x => .ok x
    | none => .error (.malformedReal s)
  | v => .error (.notReal v.kind)

def real? : Value → Option (Except Fault Float)
  | .bool b => some (realOfInt (ofBool b))
  | .int n => some (realOfInt n)
  | .float x => some (.ok x)
  | _ => none

/-- A count: a real number does not serve as one. -/
def toIndex : Value → Except Fault Int
  | .bool b => .ok (ofBool b)
  | .int n => .ok n
  | v => .error (.notIndex v.kind)

/-- The elements that a walk through the value meets: the characters of a text, the keys
of an object. -/
def elements : Value → Except Fault (List Value)
  | .list xs => .ok xs
  | .text s => .ok (s.toList.map fun c => .text c.toString)
  | .object fs => .ok (fs.map fun f => f.1.toValue)
  | v => .error (.notIterable v.kind)

def elementsIfAny (v : Value) : Except Fault (List Value) :=
  if v.truthy then v.elements else .ok []

def length : Value → Except Fault Nat
  | .list xs => .ok xs.length
  | .text s => .ok s.length
  | .object fs => .ok fs.length
  | v => .error (.noLength v.kind)

def field (v : Value) (key : String) : Except Fault Value :=
  match v with
  | .object fs =>
    match Fields.get? fs key with
    | some w => .ok w
    | none => .error (.missingField (.text key))
  | .text _ => .error .fieldOfText
  | .list _ => .error .fieldOfList
  | _ => .error (.notSubscriptable v.kind)

def fields (v : Value) : Except Fault Fields :=
  match v with
  | .object fs => .ok fs
  | _ => .error (.noAttribute v.kind "get")

def member (v : Value) (name : String) : Except Fault Value :=
  match v with
  | .object fs =>
    match Fields.get? fs name with
    | some w => .ok w
    | none => .error (.absentAttribute name)
  | _ => .error (.noAttribute v.kind name)

def toKey (v : Value) : Except Fault Key :=
  match v.key? with
  | some k => .ok k
  | none => .error (.notAKey v.kind)

def checkKey (v : Value) : Except Fault Unit := v.toKey.map fun _ => ()

def toPair (index : Nat) (v : Value) : Except Fault (Key × Value) :=
  match v.elements with
  | .error _ => .error (.notPair index)
  | .ok [k, w] => k.toKey.map fun k => (k, w)
  | .ok xs => .error (.pairLength index xs.length)

def toPairs : Nat → List Value → Except Fault Fields
  | _, [] => .ok []
  | i, v :: vs => do
    let p ← v.toPair i
    let ps ← toPairs (i + 1) vs
    return p :: ps

/-- A fresh object from an object or from a list of pairs; the last of equal keys counts. -/
def toFields : Value → Except Fault Fields
  | .object fs => .ok fs
  | v => do
    let ps ← toPairs 0 (← v.elements)
    return ps.foldl (fun fs p => Fields.set fs p.1 p.2) []

/-- Whether a container holds a value: a list by equality, an object among its keys, a text
as a part. -/
def holds (container v : Value) : Except Fault Bool :=
  match container with
  | .list xs => .ok (xs.any (·.alike v))
  | .object fs => do
    let k ← v.toKey
    return fs.any (·.1 == k)
  | .text s =>
    match v with
    | .text t => .ok (Text.isPart t.toList s.toList)
    | _ => .error (.memberOfText v.kind)
  | _ => .error (.notContainer container.kind)

def join (separator : String) (v : Value) : Except Fault String := do
  let xs ← match v.elements with
    | .ok xs => pure xs
    | .error _ => throw .joinTarget
  let parts ← xs.zipIdx.mapM fun (x, i) =>
    match x with
    | .text s => pure s
    | _ => throw (Fault.joinItem i x.kind)
  return separator.intercalate parts

end CellFlow.Value
