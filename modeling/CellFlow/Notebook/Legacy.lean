import CellFlow.Failure
import CellFlow.Notebook.Tidy
import CellFlow.Notebook.Validity

/-!
Documents of the three earlier formats, brought to the cells of the current one. The
second and third keep their cells on worksheets, sources under `input` and execution
counts under `prompt_number`; results are called `pyout`, and data go by short names. The
first is a plain list of cells with `code` or `text` in them.
-/

set_option autoImplicit false

namespace CellFlow.Notebook.Legacy

open Tidy

abbrev Joiner := Value → Except Fault String

def joinPlain : Joiner := fun v => v.join "\n"

def endsLine (s : String) : Bool :=
  match s.toList.getLast? with
  | some c => c = '\n' || c = '\r'
  | none => false

/-- Lines that carry their ends, as the first one shows, or lines without. -/
def joinEnded : Joiner := fun v =>
  match v with
  | .list (.text s :: _) => v.join (if endsLine s then "" else "\n")
  | .list (x :: _) => .error (.noAttribute x.kind "endswith")
  | _ => v.join "\n"

def onList (join : Joiner) (v : Value) : Except Fault Value :=
  match v with
  | .list _ => (join v).map .text
  | _ => .ok v

def onFields (join : Joiner) (keys : List String) (fs : Fields) : Except Fault Fields :=
  keys.foldlM (fun fs key => onField key (onList join) fs) fs

def lineFields : List String := ["text", "html", "svg", "latex", "javascript", "json"]

def joinOutput (join : Joiner) (v : Value) : Except Fault Value := do
  return .object (← onFields join lineFields (← v.fields))

def joinCell (join : Joiner) (v : Value) : Except Fault Value := do
  let form ← v.member "cell_type"
  let fs ← v.fields
  if isCode form then
    let fs ← onFields join ["input"] fs
    let outputs ← (← v.member "outputs").elements
    return .object (Fields.set fs "outputs" (.list (← outputs.mapM (joinOutput join))))
  else return .object (← onFields join ["source", "rendered"] fs)

def sheets (join : Joiner) (document : Value) : Except Fault (List (Fields × List Value)) := do
  (← (← document.member "worksheets").elements).mapM fun sheet => do
    let cells ← (← (← sheet.member "cells").elements).mapM (joinCell join)
    return (← sheet.fields, cells)

def dataKinds : List (String × String) :=
  [("text", "text/plain"), ("html", "text/html"), ("svg", "image/svg+xml"), ("png", "image/png"),
   ("jpeg", "image/jpeg"), ("latex", "text/latex"), ("json", "application/json"),
   ("javascript", "application/javascript")]

def without (keys : List String) (fs : Fields) : Fields :=
  fs.filter fun f => !keys.contains f.1.shown

/-- The value under a short name is moved to the end, unless its kind is there already. -/
def rename (fs : Fields) (names : String × String) : Fields :=
  match Fields.get? fs names.1 with
  | some v => Fields.set (without [names.1] fs) names.2 v
  | none => fs

def checkOutputMetadata (v : Value) : Except Fault Value := do
  for names in dataKinds do
    if ← v.holds (.text names.1) then
      match v with
      | .object _ => pure ()
      | .list _ => throw (.notIndex .text)
      | _ => throw (.noAttribute v.kind "pop")
  match v with
  | .object fs => return .object (dataKinds.foldl rename fs)
  | _ => return v

def readDocument (fs : Fields) : Outcome Fields :=
  match Fields.get? fs "application/json" with
  | none => return fs
  | some (.text s) =>
    match Json.read s with
    | .ok v => return Fields.set fs "application/json" v
    | .error e => throw (.ofRead e)
  | some v => throw (.fault (.notDocumentText v.kind))

/-- A result or display: everything but its form, count and metadata goes into its data. -/
def upgradeDisplay (fs : Fields) (isResult : Bool) : Outcome Value := do
  let fs := Fields.setDefault fs "metadata" (.object [])
  let count := Fields.getD fs "prompt_number" .null
  let fs := if isResult then
      Fields.set (Fields.set (without ["prompt_number"] fs) "output_type" (.text "execute_result"))
        "execution_count" count
    else fs
  let kept := ["output_type", "execution_count", "metadata"]
  let data := dataKinds.foldl rename (without kept fs)
  let metadata ← checkOutputMetadata (Fields.getD fs "metadata" .null)
  let data ← readDocument data
  let fs := fs.filter fun f => kept.contains f.1.shown
  return .object (Fields.set (Fields.set fs "metadata" metadata) "data" (.object data))

def upgradeOutput (v : Value) : Outcome Value := do
  let form ← v.field "output_type"
  form.checkKey
  let fs ← v.fields
  if form.alike (.text "pyout") then upgradeDisplay fs true
  else if form.alike (.text "display_data") then upgradeDisplay fs false
  else if form.alike (.text "pyerr") then return .object (Fields.set fs "output_type" (.text "error"))
  else if form.alike (.text "stream") then
    let name := Fields.getD fs "stream" (.text "stdout")
    return .object (Fields.set (without ["stream"] fs) "name" name)
  else return v

def checkHeading (fs : Fields) : Except Fault Unit := do
  match Fields.getD fs "level" (.int 1) with
  | .int _ | .bool _ => pure ()
  | v => throw (.repeatCount v.kind.name)
  match Fields.getD fs "source" (.text "") with
  | .text _ => return
  | v => throw (.noAttribute v.kind "splitlines")

def moveCollapsed (fs : Fields) : Except Fault Fields := do
  match Fields.get? fs "collapsed" with
  | none => return fs
  | some v =>
    match Fields.getD fs "metadata" .null with
    | .object m => return Fields.set (without ["collapsed"] fs) "metadata" (.object (Fields.set m "collapsed" v))
    | .list _ => throw .fieldOfList
    | m => throw (.notAssignable m.kind)

def newId : Value := .text "cell"

def upgradeCode (v : Value) (fs : Fields) : Outcome Value := do
  let fs ← moveCollapsed (without ["language"] fs)
  let source := Fields.getD fs "input" (.text "")
  let count := Fields.getD fs "prompt_number" .null
  let outputs ← (← (← v.member "outputs").elements).mapM upgradeOutput
  let fs := Fields.set (without ["input", "prompt_number"] fs) "source" source
  return .object (Fields.set (Fields.set fs "execution_count" count) "outputs" (.list outputs))

def upgradeCell (v : Value) : Outcome Value := do
  let form ← v.member "cell_type"
  let fs := Fields.set (Fields.setDefault (← v.fields) "metadata" (.object [])) "id" newId
  let prose := Fields.set fs "cell_type" (.text "markdown")
  if isCode form then upgradeCode v fs
  else if form.alike (.text "heading") then
    checkHeading fs
    return .object (Fields.setDefault (without ["level"] prose) "source" (.text ""))
  else if form.alike (.text "html") then return .object prose
  else return .object fs

/-- The fields of a document but for its cells. Its metadata say which format it had; they must
be an object. -/
def upgradeFrame (document : Value) : Except Fault Fields := do
  let fs ← document.fields
  match ← document.member "metadata" with
  | .object m =>
    let known (key : String) (standard : Value) : Value :=
      let v := Fields.getD fs key .null
      if v.truthy then v else standard
    let m := Fields.set (Fields.set m "orig_nbformat" (known "orig_nbformat" (.int 3)))
      "orig_nbformat_minor" (known "orig_nbformat_minor" (.int 0))
    let own : Fields := [("metadata", .object (without ["name", "signature"] m)), ("nbformat", .int 4),
      ("nbformat_minor", .int Validity.latestRevision), ("cells", .list [])]
    return own.foldl (fun fs f => Fields.set fs f.1 f.2)
      (without ["orig_nbformat", "orig_nbformat_minor", "worksheets"] fs)
  | m => throw (.noAttribute m.kind "orig_nbformat")

def upgrade (document : Value) (sheets : List (Fields × List Value)) : Outcome (List Value) := do
  let frame ← upgradeFrame document
  let cells ← (sheets.flatMap (·.2)).mapM upgradeCell
  Validity.check Validity.latestRevision frame cells
  return cells

def checkPicture (output : Fields) (key : String) : Outcome Unit := do
  match Fields.get? output key with
  | none => return
  | some (.text s) => if s.toList.any (128 ≤ ·.toNat) then throw .notUnicode
  | some v => throw (.fault (.noAttribute v.kind "encode"))

def checkPictures (cell : Value) : Outcome Unit := do
  let fs ← cell.fields
  if isCode (Fields.getD fs "cell_type" .null) then
    for output in ← (Fields.getD fs "outputs" (.list [])).elements do
      let o ← output.fields
      checkPicture o "png"
      checkPicture o "jpeg"

def asThird (fs : Fields) : Fields :=
  let own : Fields := [("nbformat", .int 3), ("nbformat_minor", .int 0), ("orig_nbformat", .int 2)]
  own.foldl (fun fs f => Fields.set fs f.1 f.2) fs

inductive FirstCell where
  | code (source count : Value) : FirstCell
  | prose : FirstCell
  /-- A cell of another form stands for the one before it once more. -/
  | repeated : FirstCell
  deriving Repr

def codeCell (source count : Value) : Value :=
  .object [("cell_type", .text "code"), ("source", source), ("execution_count", count),
    ("outputs", .list [])]

def proseCell : Value := .object [("cell_type", .text "markdown")]

def readFirstCell (v : Value) : Except Fault FirstCell := do
  let form ← v.member "cell_type"
  let fs ← v.fields
  if isCode form then
    let source := match Fields.getD fs "code" .null with
      | .null => Value.text ""
      | source => .text source.shown
    let count ← match Fields.getD fs "prompt_number" .null with
      | .null => pure Value.null
      | count => count.toInteger.map .int
    return .code source count
  else if form.alike (.text "text") then return .prose
  else return .repeated

def readFirstCells (isFirst : Bool) : List Value → Outcome (List FirstCell)
  | [] => return []
  | v :: vs => do
    match isFirst, ← readFirstCell v with
    | true, .repeated => throw .formlessCell
    | _, cell => return cell :: (← readFirstCells false vs)

/-- The cells that a cell and its repetitions become: a cell that is repeated loses its
source and its count. The flag tells whether the cell before them is a code cell. -/
def upgradeFirstCells (afterCode : Bool) : List FirstCell → List Value
  | [] => []
  | .repeated :: cells =>
    (if afterCode then codeCell (.text "") .null else proseCell) :: upgradeFirstCells afterCode cells
  | .prose :: cells => proseCell :: upgradeFirstCells false cells
  | .code _ _ :: .repeated :: cells =>
    codeCell (.text "") .null :: upgradeFirstCells true (.repeated :: cells)
  | .code source count :: cells => codeCell source count :: upgradeFirstCells true cells

def firstCells (document : Value) : Outcome (List Value) := do
  let cells ← (← document.member "cells").elements
  return upgradeFirstCells false (← readFirstCells true cells)

end CellFlow.Notebook.Legacy
