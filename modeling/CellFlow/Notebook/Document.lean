import CellFlow.Cell
import CellFlow.Notebook.Legacy
import CellFlow.Text.Quoted

/-!
Notebook documents: a JSON object that names the version of its format. Its code cells, in
their order, are the cells of the notebook.
-/

set_option autoImplicit false

namespace CellFlow.Notebook.Document

open Tidy

inductive Format where
  | first | second | third | current
  deriving DecidableEq, Repr

def Format.ofVersion? (v : Value) : Option Format :=
  if v.alike (.int 1) then some .first
  else if v.alike (.int 2) then some .second
  else if v.alike (.int 3) then some .third
  else if v.alike (.int 4) then some .current
  else none

/-- A missing field makes a document invalid. -/
def needing {α : Type} (reason : String → String) : Outcome α → Outcome α
  | .error (.fault f) =>
    if f.category = .attribute then throw (.invalidDocument (reason f.message)) else throw (.fault f)
  | o => o

def missingKey (key : String) : String :=
  "The notebook is invalid and is missing an expected key: " ++ key

def notConverted (version key : String) : String :=
  s!"Notebook could not be converted from version {version} because it's missing a key: {key}"

def readVersion (v : Value) : Outcome Int :=
  match v with
  | .int n => return n
  | .bool b => return Value.ofBool b
  | _ => throw .partialVersion

/-- A cell that lacks an id, or has the id of a cell before it, gets a new one. Ids must be keys. -/
def repairIds : List Key → List Value → Except Fault (List Value)
  | _, [] => .ok []
  | seen, v :: vs =>
    match v with
    | .object fs =>
      match Fields.get? fs "id" with
      | none => (repairIds seen vs).map (.object (Fields.set fs "id" Legacy.newId) :: ·)
      | some id => do
        let key ← id.toKey
        let v := if seen.contains key then .object (Fields.set fs "id" Legacy.newId) else v
        return v :: (← repairIds (key :: seen) vs)
    | _ => (repairIds seen vs).map (v :: ·)

def withIds (revision : Int) (cells : List Value) : Except Fault (List Value) :=
  if 5 ≤ revision then repairIds [] cells else .ok cells

/-- Rules for the third format are known for its first revision alone, and there are no later
ones; earlier numbers are let pass. -/
def checkThird (revision : Int) (fs : Fields) (sheets : List (Fields × List Value)) : Outcome Unit := do
  if 0 < revision then throw (.invalidDocument "(None, None)")
  if revision = 0 then Validity.Third.check fs sheets

def currentCells (document : Value) : Outcome (List Value) := do
  let fs ← document.fields
  let version := Fields.getD fs "nbformat" (.int 1)
  let revision := Fields.getD fs "nbformat_minor" (.int 0)
  version.checkKey
  match Format.ofVersion? version with
  | none => throw (.unknownVersion version)
  | some .current =>
    let cells ← needing missingKey (Tidy.cells document)
    let _ ← readVersion version
    let revision ← readVersion revision
    Validity.check revision fs (← withIds revision cells)
    return cells
  | some .third =>
    let sheets ← needing missingKey (Legacy.sheets Legacy.joinEnded document)
    let _ ← readVersion version
    checkThird (← readVersion revision) fs sheets
    needing (notConverted "3 to version 4") (Legacy.upgrade document sheets)
  | some .second =>
    let sheets ← needing missingKey (do
      let sheets ← Legacy.sheets Legacy.joinPlain document
      (sheets.flatMap (·.2)).forM Legacy.checkPictures
      return sheets)
    let third := Legacy.asThird fs
    checkThird 0 third sheets
    needing (notConverted "3 to version 4") (Legacy.upgrade (.object third) sheets)
  | some .first => needing (notConverted "1 to version 2") (Legacy.firstCells document)

def codeCells : List Value → Except Fault (List Value)
  | [] => .ok []
  | v :: vs => do
    let form ← v.member "cell_type"
    let cells ← codeCells vs
    return if isCode form then v :: cells else cells

def readCell (position : Int) (v : Value) : Except Fault Cell := do
  let fs ← v.fields
  let outputs ← (Fields.getD fs "outputs" (.list [])).elements
  let source ← v.member "source"
  return { position, source, outputs, executionCount := Fields.getD fs "execution_count" .null }

def readCells : Int → List Value → Except Fault (List Cell)
  | _, [] => .ok []
  | position, v :: vs => do
    let c ← readCell position v
    return c :: (← readCells (position + 1) vs)

def cells (documentCells : List Value) : Except Fault (List Cell) := do
  readCells 1 (← codeCells documentCells)

def notJson (text : String) : String :=
  String.ofList (("Notebook does not appear to be JSON: " ++ Text.quoted text).toList.take 77) ++ "..."

def ofText (text : String) : Outcome Value :=
  match Json.read text with
  | .ok v => .ok v
  | .error (.tooDeep nest) => .error (.tooDeep nest)
  | .error _ => .error (.invalidDocument (notJson text))

end CellFlow.Notebook.Document
