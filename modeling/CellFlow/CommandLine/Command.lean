import CellFlow.CommandLine.Reading
import CellFlow.Layout.Direction
import CellFlow.Session.Save

/-!
The command line of the program: a command that draws the graph of a notebook, and one that
lists what its cells assign and use.
-/

set_option autoImplicit false

namespace CellFlow.CommandLine

def programName : String := "notebook-flowgraph"

def helpSwitch : Switch := ⟨["-h", "--help"], .help⟩

def configSwitch : Switch := ⟨["--config"], .text []⟩

def groupsSwitch : Switch := ⟨["--groups"], .text []⟩

def collapseSwitch : Switch := ⟨["--collapse-groups"], .flag⟩

def outputSwitch : Switch := ⟨["--output", "-o"], .text []⟩

def folderSwitch : Switch := ⟨["--output-dir"], .text []⟩

def formatSwitch : Switch := ⟨["--format"], .text ("all" :: OutputFormat.all.map OutputFormat.name)⟩

def directionSwitch : Switch := ⟨["--rank-direction"], .text (Direction.all.map Direction.code)⟩

def resolutionSwitch : Switch := ⟨["--dpi"], .number⟩

def quietSwitch : Switch := ⟨["--quiet", "-q"], .flag⟩

def mainForm : Form where
  program := programName
  switches := [helpSwitch, ⟨["--version", "-V"], .version⟩]
  operand := .command "command" ["graph", "info"]

def graphForm : Form where
  program := programName ++ " graph"
  switches := [helpSwitch, groupsSwitch, collapseSwitch, configSwitch, outputSwitch, folderSwitch,
    formatSwitch, directionSwitch, resolutionSwitch, quietSwitch]
  operand := .one "notebook"

def infoForm : Form where
  program := programName ++ " info"
  switches := [helpSwitch, configSwitch]
  operand := .one "notebook"

structure Overrides where
  config : Option String := none
  folder : Option String := none
  direction : Option String := none
  resolution : Option Int := none
  quiet : Bool := false
  deriving DecidableEq, Repr

structure GraphOrder where
  notebook : String
  overrides : Overrides := {}
  groups : Option String := none
  collapse : Bool := false
  output : Option String := none
  formats : Value := OutputFormat.allNames
  deriving Repr

inductive Command where
  | none : Command
  | graph (order : GraphOrder) : Command
  | info (notebook : String) (overrides : Overrides) : Command
  deriving Repr

def operandOf (r : Reading) : String := ((r.operand.getD []).head?).getD ""

def overridesOf (r : Reading) : Overrides where
  config := r.text? configSwitch.title
  folder := r.text? folderSwitch.title
  direction := r.text? directionSwitch.title
  resolution := r.number? resolutionSwitch.title
  quiet := r.has quietSwitch.title

/-- The names of the formats to write; where a format is given as nothing at all, there is an
empty list in place of a name. -/
def formatsOf (r : Reading) : Value :=
  match r.get? formatSwitch.title with
  | some (.text "all") | .none => OutputFormat.allNames
  | some (.text name) => .list [.text name]
  | some _ => .list [.list []]

def graphCommand (r : Reading) : Command :=
  .graph {
    notebook := operandOf r
    overrides := overridesOf r
    groups := r.text? groupsSwitch.title
    collapse := r.has collapseSwitch.title
    output := r.text? outputSwitch.title
    formats := formatsOf r }

def infoCommand (r : Reading) : Command := .info (operandOf r) (overridesOf r)

def checkExtra (extra : List String) : Except Stop Unit :=
  if extra.isEmpty then .ok ()
  else mainForm.complain ("unrecognized arguments: " ++ " ".intercalate extra)

def Command.read (words : List String) : Except Stop Command := do
  let r ← mainForm.read words
  match r.operand with
  | some ("graph" :: rest) =>
    let g ← graphForm.read rest
    checkExtra (r.extra ++ g.extra)
    return graphCommand g
  | some ("info" :: rest) =>
    let g ← infoForm.read rest
    checkExtra (r.extra ++ g.extra)
    return infoCommand g
  | some (other :: _) => mainForm.complain (notAChoice "command" other ["graph", "info"])
  | _ =>
    checkExtra r.extra
    return .none

end CellFlow.CommandLine
