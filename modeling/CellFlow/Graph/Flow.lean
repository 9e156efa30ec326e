import CellFlow.Data.Table
import CellFlow.Failure
import CellFlow.Names.Extract

/-!
The flow of data between cells. Cells are taken in order; a used name links the latest
earlier cell that assigned it to the cell that uses it, and only then do the cell's own
assignments count.
-/

set_option autoImplicit false

namespace CellFlow

structure Link where
  source : String
  target : String
  deriving DecidableEq, Repr, Inhabited

def Link.toFields (l : Link) : Fields := [("source", .text l.source), ("target", .text l.target)]

/-- What cells are told apart by. Cells have whole numbers as positions; a flow can be found
between others, too. -/
class Position (π : Type) where
  text : π → String
  isGiven : π → Bool

instance : Position Int where
  text := toString
  isGiven _ := true

/-- Any value may stand for a position; null is none. -/
instance : Position Value where
  text := Value.shown
  isGiven
    | .null => false
    | _ => true

variable {π : Type}

abbrev Writers (π : Type) := Table String π

def Writers.record (w : Writers π) (names : List String) (position : π) : Writers π :=
  names.foldl (fun w name => w.put name position) w

/-- The latest writers so far, and the links found so far with the names they carry. -/
structure Flow (π : Type) where
  writers : Writers π
  carried : Table Link NameSet
  deriving DecidableEq, Repr

namespace Flow

def empty : Flow π := ⟨.empty, .empty⟩

instance : Inhabited (Flow π) := ⟨empty⟩

def links (f : Flow π) : List Link := f.carried.keys

def namesOn (f : Flow π) (l : Link) : List String := ((f.carried.get? l).getD .empty).toList

/-- Puts names on a link; a link that is not there goes to the end. -/
def credit (t : Table Link NameSet) (l : Link) (names : List String) : Table Link NameSet :=
  t.put l (((t.get? l).getD .empty).insertAll names)

variable [Position π]

/-- A consumer uses a name. A name without an earlier writer gives no link. -/
def use (consumer : String) (f : Flow π) (name : String) : Flow π :=
  match (f.writers.get? name).filter Position.isGiven with
  | none => f
  | some producer => { f with carried := credit f.carried ⟨Position.text producer, consumer⟩ [name] }

/-- The cell at a position uses its names, then assigns its own. -/
def step (f : Flow π) (position : π) (n : CellNames) : Flow π :=
  let f := n.used.toList.foldl (use (Position.text position)) f
  { f with writers := Writers.record f.writers n.assigned.toList position }

def ofCells (cells : List (π × CellNames)) : Flow π :=
  cells.foldl (fun f c => f.step c.1 c.2) empty

def countedPositions (n : Nat) : List Int := (List.range n).map fun (i : Nat) => (i : Int) + 1

def build (positions : List π) (results : List CellNames) : Outcome (Flow π) :=
  if positions.length = results.length then .ok (ofCells (positions.zip results))
  else .error (.positionCount positions.length results.length)

/-- What is kept after another build: its flow, or the old one when it failed. -/
def rebuild (old : Flow π) (positions : List π) (results : List CellNames) :
    Flow π × Outcome (List Link) :=
  match build positions results with
  | .ok f => (f, .ok f.links)
  | .error e => (old, .error e)

end Flow

end CellFlow
