import CellFlow.CommandLine.Run
import CellFlow.Picture.Portable
import Std.Time.Format

/-!
The program on a real machine: its standard streams, its clock and its files.
-/

set_option autoImplicit false

namespace CellFlow.Main

def isPassage (code : UInt32) : Bool := code = 20 || code = 0 - 20

def isLength (code : UInt32) : Bool := code = 36 || code = 0 - 36

def refusalOf : IO.Error → Refusal
  | .alreadyExists .. => .fileExists
  | .invalidArgument _ code _ => if isLength code then .nameTooLong else .noSuchFile
  | .inappropriateType _ code _ => if isPassage code then .notFolder else .isFolder
  | _ => .noSuchFile

def refusing {α : Type} (act : IO α) : IO (Except Refusal α) := do
  match ← act.toBaseIO with
  | .ok a => return .ok a
  | .error e => return .error (refusalOf e)

/-- A folder is there although it cannot be read. -/
def isThere (p : FilePath) : IO (Except Refusal Bool) := do
  match ← refusing (IO.FS.readBinFile p.text) with
  | .ok _ | .error .isFolder => return .ok true
  | .error .nameTooLong => return .error .nameTooLong
  | .error _ => return .ok false

def bytesOf : Content → ByteArray
  | .picture f resolution => (f.paint resolution).encode
  | content => content.toBytes

def timeText : IO String := do
  return (← Std.Time.PlainDateTime.now).format "uuuu-MM-dd'T'HH:mm:ss.SSSSSS"

instance : Host IO where
  say s := do
    (← IO.getStdout).putStr s
    (← IO.getStdout).flush
  time := timeText
  clock := IO.monoMsNow
  isThere := isThere
  read p := refusing (IO.FS.readBinFile p.text)
  makeFolders p := refusing (IO.FS.createDirAll p.text)
  write p content := refusing (IO.FS.writeBinFile p.text (bytesOf content))

def readEnvironment : IO Environment := do
  let found ← Environment.names.mapM fun name => do
    return (← IO.getEnv name).map fun v => (name, v)
  return found.filterMap id

end CellFlow.Main

def main (args : List String) : IO UInt32 := do
  let environment ← CellFlow.Main.readEnvironment
  let ending : CellFlow.CommandLine.Ending ← CellFlow.CommandLine.run environment args
  (← IO.getStderr).putStr ending.complaint
  return ending.code.toUInt32
