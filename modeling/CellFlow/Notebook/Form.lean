import CellFlow.Files.Path
import CellFlow.Notebook.Document
import CellFlow.Notebook.Script
import CellFlow.Notebook.Trace
import CellFlow.Text.Lines

/-!
The forms of notebook files: documents, scripts and traces. The suffix of a file tells its
form. What cannot be read for what it claims to be is reported under the path of the file.
-/

set_option autoImplicit false

namespace CellFlow.Notebook

inductive Form where
  | document | script | trace
  deriving DecidableEq, Repr

namespace Form

def all : List Form := [.document, .script, .trace]

def suffix : Form → String
  | .document => ".ipynb"
  | .script => ".py"
  | .trace => ".csv"

def ofSuffix? (suffix : String) : Option Form := all.find? fun f => f.suffix = Text.lowered suffix

def ofPath? (p : FilePath) : Option Form := ofSuffix? p.suffix

def name (f : Form) : String := String.ofList (f.suffix.toList.drop 1)

end Form

def formName (p : FilePath) : String :=
  match Form.ofPath? p with
  | some f => f.name
  | none => "unknown"

def unsupported (suffix : String) : String :=
  let shown := if suffix.isEmpty then "(none)" else suffix
  s!"unsupported file format {shown}; supported formats: " ++ ", ".intercalate (Form.all.map Form.suffix)

/-- Failures that say of a document that it is no notebook. -/
def isReaderFailure (f : Failure) : Bool :=
  match f with
  | .invalidDocument _ => true
  | f => f.isValueFailure || f.kindName = "KeyError" || f.kindName = "AttributeError"

/-- A document in a file may also be out of reach. -/
def isDocumentFailure (f : Failure) : Bool :=
  match f with
  | .refused .. => true
  | f => isReaderFailure f

/-- In a document in memory, a value of a wrong kind makes it no notebook, too. -/
def isMemoryFailure (f : Failure) : Bool := isReaderFailure f || f.kindName = "TypeError"

/-- Failures of a kind are reported as those of reading the notebook. -/
def reporting {α : Type} (path : String) (isExpected : Failure → Bool) : Outcome α → Outcome α
  | .ok a => .ok a
  | .error f => .error (if isExpected f then .unreadableNotebook path f.message else f)

def decode (bytes : ByteArray) : Outcome String :=
  match String.fromUTF8? bytes with
  | some s => .ok s
  | none => .error .notUnicode

def decodeLines (bytes : ByteArray) : Outcome String :=
  (decode bytes).map fun s => String.ofList (Text.plainLines s.toList)

/-- What reads documents: the cells that a document has in the current format. -/
abbrev Reader := Value → Outcome (List Value)

def documentName : String := "<notebook document>"

/-- The cells of a document in memory. -/
def ofDocumentBy (reader : Reader) (document : Value) : Outcome (List Cell) := do
  let cells ← reporting documentName isMemoryFailure (reader document)
  Document.cells cells

def ofDocument : Value → Outcome (List Cell) := ofDocumentBy Document.currentCells

def readDocument (reader : Reader) (path : String) (file : Outcome ByteArray) : Outcome (List Cell) := do
  let cells ← reporting path isDocumentFailure do
    let text ← decodeLines (← file)
    reader (← Document.ofText text)
  Document.cells cells

def readScript (path : String) (file : Outcome ByteArray) : Outcome (List Cell) := do
  let text ← reporting path (fun _ => true) do decodeLines (← file)
  return Script.cells text

def checkRecord (path : String) (row : Text.FieldRow) : Outcome Unit :=
  if Text.Records.isTooLong row then
    .error (.unreadableNotebook path s!"field larger than field limit ({Text.Records.maxField})")
  else .ok ()

def readTrace (path : String) (file : Outcome ByteArray) : Outcome (List Cell) := do
  let text ← reporting path (fun _ => true) do decode (← file)
  let rows := Text.Records.read text.toList
  let header := rows.headD []
  checkRecord path header
  let missing := Trace.missingColumns header
  if !missing.isEmpty then
    throw (.noNotebook path ("missing trace columns: " ++ ", ".intercalate missing))
  rows.tail.forM (checkRecord path)
  Trace.cells header rows.tail

def read (reader : Reader) (form : Form) (path : String) (file : Outcome ByteArray) : Outcome (List Cell) :=
  match form with
  | .document => readDocument reader path file
  | .script => readScript path file
  | .trace => readTrace path file

end CellFlow.Notebook
