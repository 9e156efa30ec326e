import CellFlow.Cell
import CellFlow.Names.Clean
import CellFlow.Names.Line
import CellFlow.Names.NameSet
import CellFlow.Settings.Sections

/-!
The names that a cell assigns and the names that it uses. A name counts as used when it
stands as a word in what a line reads, is not assigned by the cell, and is not excluded.
-/

set_option autoImplicit false

namespace CellFlow

/-- The names that a cell writes, and those that it reads without writing them. -/
structure CellNames where
  assigned : NameSet
  used : NameSet
  deriving DecidableEq, Repr, Inhabited

def CellNames.isEmpty (n : CellNames) : Bool := n.assigned.isEmpty && n.used.isEmpty

namespace Names

def reserved : List String :=
  ["False", "None", "True", "and", "as", "assert", "async", "await",
   "break", "class", "continue", "def", "del", "elif", "else", "except",
   "finally", "for", "from", "global", "if", "import", "in", "is",
   "lambda", "nonlocal", "not", "or", "pass", "raise", "return", "try",
   "while", "with", "yield",
   "print", "len", "range", "str", "int", "float", "list", "dict", "set"]

/-- What decides which lines count and which names are left out. -/
structure Rules where
  skipMagics : Bool
  excluded : List String
  deriving DecidableEq, Repr

def extraNames (v : Value) : Except Fault (List String) := do
  let xs ← v.elements
  xs.forM Value.checkKey
  return xs.filterMap fun
    | .text s => some s
    | _ => none

def Rules.ofSettings (s : ParsingSettings) : Except Fault Rules := do
  let extra ← extraNames s.extraExcludedNames
  return ⟨s.skipMagics.truthy, reserved ++ extra⟩

def sourceText? : Value → Option String
  | .text s => some s
  | .list lines => do
    let parts ← lines.mapM fun
      | .text s => some s
      | _ => none
    return "\n".intercalate parts
  | _ => none

def linesOf (s : String) : List (List Char) := Text.splitOn '\n' (clean s.toList)

def Rules.readings (r : Rules) (lines : List (List Char)) : List Reading :=
  (lines.filter fun line => !(r.skipMagics && isMagic line)).map readLine

def assignedIn (rs : List Reading) : NameSet :=
  .ofList ((rs.flatMap Reading.targets).map String.ofList)

def wordsRead (rs : List Reading) : List String :=
  (rs.flatMap fun r => wordsIn r.rest).map String.ofList

def Rules.ofReadings (r : Rules) (rs : List Reading) : CellNames :=
  let assigned := assignedIn rs
  ⟨assigned, .ofList ((wordsRead rs).filter fun w => w ∉ assigned ∧ w ∉ r.excluded)⟩

def Rules.extract (r : Rules) (source : Value) : CellNames :=
  match sourceText? source with
  | some s => r.ofReadings (r.readings (linesOf s))
  | none => ⟨.empty, .empty⟩

end Names

end CellFlow
