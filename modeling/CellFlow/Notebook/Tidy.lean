import CellFlow.Data.Access

/-!
Documents of the current format as they are stored: texts may be stored as lists of lines,
which are joined when a document is read.
-/

set_option autoImplicit false

namespace CellFlow.Notebook.Tidy

def onField (key : String) (f : Value → Except Fault Value) (fs : Fields) : Except Fault Fields :=
  match Fields.get? fs key with
  | some v => (f v).map (Fields.set fs key)
  | none => .ok fs

/-- A list of texts as one text; anything else than a list is left as it is. -/
def joinLines (v : Value) : Except Fault Value :=
  match v with
  | .list _ => (v.join "").map .text
  | _ => .ok v

/-- Data of these kinds are documents of their own, and a list in them is no text. -/
def isDocumentKind (kind : Key) : Bool :=
  let name := kind.shown
  name = "application/json" ||
    ("application/".toList.isPrefixOf name.toList && "+json".toList.isSuffixOf name.toList)

def text? : Value → Option String
  | .text s => some s
  | _ => none

def joinDatum (f : Key × Value) : Key × Value :=
  match f.2 with
  | .list xs =>
    if isDocumentKind f.1 then f
    else match xs.mapM text? with
      | some lines => (f.1, .text ("".intercalate lines))
      | none => f
  | _ => f

def joinData (v : Value) : Except Fault Value :=
  match v with
  | .object fs => .ok (.object (fs.map joinDatum))
  | _ => .error (.noAttribute v.kind "items")

def joinAttachments (v : Value) : Except Fault Value :=
  match v with
  | .object fs => do
    for f in fs do
      let _ ← joinData f.2
    return v
  | _ => .error (.noAttribute v.kind "items")

def isDisplay (form : Value) : Bool :=
  form.alike (.text "execute_result") || form.alike (.text "display_data")

def joinOutput (v : Value) : Except Fault Value := do
  let fs ← v.fields
  let form := Fields.getD fs "output_type" (.text "")
  form.checkKey
  if isDisplay form then return .object (← onField "data" joinData fs)
  else if form.truthy then return .object (← onField "text" joinLines fs)
  else return v

def joinOutputs (v : Value) : Except Fault Value := do
  return .list (← (← v.elements).mapM joinOutput)

def isCode (form : Value) : Bool := form.alike (.text "code")

def joinCell (v : Value) : Except Fault Value := do
  if ← v.holds (.text "source") then
    let _ ← v.member "source"
  let fs ← v.fields
  let fs ← onField "source" joinLines fs
  let fs ← onField "attachments" joinAttachments fs
  if isCode (Fields.getD fs "cell_type" .null) then return .object (← onField "outputs" joinOutputs fs)
  else return .object fs

def checkMetadata (v : Value) : Except Fault Unit := do
  match ← v.member "metadata" with
  | .object _ => return
  | .list _ => throw .removedKey
  | m => throw (.noAttribute m.kind "pop")

def cells (document : Value) : Except Fault (List Value) := do
  let stored ← (← document.member "cells").elements
  let cells ← stored.mapM joinCell
  checkMetadata document
  cells.forM checkMetadata
  return cells

end CellFlow.Notebook.Tidy
