import CellFlow.Failure
import CellFlow.Files.Tree

/-!
The place where the program runs: it prints text, knows the time, and holds files. A desk
is such a place in memory, on which the time stands still.
-/

set_option autoImplicit false

namespace CellFlow

class Host (m : Type → Type) where
  say : String → m Unit
  time : m String
  clock : m Nat
  isThere : FilePath → m (Except Refusal Bool)
  read : FilePath → m (Except Refusal ByteArray)
  makeFolders : FilePath → m (Except Refusal Unit)
  write : FilePath → Content → m (Except Refusal Unit)

/-- An action that ends with a result or a failure; what was done before a failure stays done. -/
abbrev Action (m : Type → Type) (α : Type) := ExceptT Failure m α

namespace Action

variable {m : Type → Type} [Monad m] [Host m] {α : Type}

def say (s : String) : Action m Unit := ExceptT.lift (Host.say s)

def sayIf (wanted : Bool) (s : String) : Action m Unit := if wanted then say s else pure ()

def ofOutcome (o : Outcome α) : Action m α := ExceptT.mk (pure o)

def ofRefusal (path : String) (act : m (Except Refusal α)) : Action m α := do
  match ← ExceptT.lift act with
  | .ok a => return a
  | .error why => throw (.refused why path)

def write (path : FilePath) (content : Content) : Action m Unit :=
  ofRefusal path.text (Host.write path content)

end Action

structure Desk where
  files : FileTree := {}
  said : String := ""
  time : String := ""

namespace Desk

def change (d : Desk) : Except Refusal FileTree → Except Refusal Unit × Desk
  | .ok files => (.ok (), { d with files })
  | .error why => (.error why, d)

instance : Host (StateM Desk) where
  say s := modify fun d => { d with said := d.said ++ s }
  time := return (← get).time
  clock := pure 0
  isThere p := return (← get).files.isThere p
  read p := return (← get).files.read p
  makeFolders p := fun d => d.change (d.files.makeFolders p)
  write p content := fun d => d.change (d.files.write p content)

end Desk

end CellFlow
