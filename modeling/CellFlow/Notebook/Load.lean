import CellFlow.Files.Host
import CellFlow.Notebook.Form

/-!
Loading the cells of a notebook from a file.
-/

set_option autoImplicit false

namespace CellFlow.Notebook

def notice (cells : Nat) (path : String) : String := s!"✓ Loaded {cells} code cells from {path}\n"

def fileAt {m : Type → Type} [Monad m] [Host m] (path : FilePath) : m (Outcome ByteArray) := do
  match ← Host.read path with
  | .ok bytes => return .ok bytes
  | .error why => return .error (.refused why path.text)

def loadBy {m : Type → Type} [Monad m] [Host m] (reader : Reader) (path : FilePath) (verbose : Bool) :
    Action m (List Cell) := do
  if !(← Action.ofRefusal path.text (Host.isThere path)) then throw (.noNotebook path.text "file not found")
  match Form.ofPath? path with
  | none => throw (.noNotebook path.text (unsupported (Text.lowered path.suffix)))
  | some form =>
    let file ← ExceptT.lift (fileAt path)
    let cells ← Action.ofOutcome (read reader form path.text file)
    Action.sayIf verbose (notice cells.length path.text)
    return cells

def load {m : Type → Type} [Monad m] [Host m] : FilePath → Bool → Action m (List Cell) :=
  loadBy Document.currentCells

end CellFlow.Notebook
