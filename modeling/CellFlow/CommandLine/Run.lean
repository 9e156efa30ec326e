import CellFlow.CommandLine.Help
import CellFlow.Settings.Environment

/-!
Running commands. A command prints what it does, and ends with an exit code: zero, or one
after a failure, which is printed.
-/

set_option autoImplicit false

namespace CellFlow.CommandLine

variable {m : Type → Type} [Monad m] [Host m]

def isFileFailure (f : Failure) : Bool := Session.isRefusal f || f.isValueFailure

def isSettingsFailure (f : Failure) : Bool :=
  isFileFailure f || f.kindName = "TypeError" || f.kindName = "AttributeError"

def readJson (file : Outcome ByteArray) : Outcome Value := do
  let text ← Notebook.decodeLines (← file)
  match Json.read text with
  | .ok v => return v
  | .error e => throw (.ofRead e)

def settingsIn (name : String) (file : Outcome ByteArray) : Outcome Settings :=
  match readJson file >>= Settings.ofValue with
  | .ok s => .ok s
  | .error f =>
    .error (if isSettingsFailure f then .unreadableSettings name f.message else f)

def groupsIn (name : String) (file : Outcome ByteArray) : Outcome Value :=
  match readJson file with
  | .ok (.object fs) => .ok (Fields.getD fs "groups" (.list []))
  | .ok v => .ok v
  | .error f => .error (if isFileFailure f then .unreadableGroups name f.message else f)

def fileNamed (name : String) : m (Outcome ByteArray) := do
  match ← Host.read (FilePath.ofText name) with
  | .ok bytes => return .ok bytes
  | .error why => return .error (.refused why name)

def Overrides.apply (o : Overrides) (s : Settings) : Settings :=
  { s with
    outputFolder := (o.folder.map FilePath.ofText).getD s.outputFolder
    layout := { s.layout with
      rankDirection := (o.direction.map Value.text).getD s.layout.rankDirection }
    figure := { s.figure with dpi := (o.resolution.map Value.int).getD s.figure.dpi }
    verbose := if o.quiet then .bool false else s.verbose }

/-- The settings for a command: those of a file, or else of the environment. -/
def settingsFor (e : Environment) (o : Overrides) : Action m Settings := do
  let s ← match o.config with
    | some name =>
      let file ← ExceptT.lift (Notebook.fileAt (FilePath.ofText name))
      Action.ofOutcome (settingsIn name file)
    | none => Action.ofOutcome e.settings
  return o.apply s

def blanks (n : Nat) : String := String.ofList (List.replicate n ' ')

def header : String :=
  "\n" ++ rule ++ "\n" ++ blanks 18 ++ "NOTEBOOK FLOW GRAPH\n" ++ blanks 21 ++ "Version " ++ version ++
    "\n" ++ rule ++ "\n\n"

def summary (r : Result) (written : List FilePath) : String :=
  let groups := r.groups.length
  "\n" ++ rule ++ "\nSUMMARY\n" ++ rule ++ "\n" ++
    s!"  • Cells: {r.graph.primary.length}\n" ++
    s!"  • Dependencies: {r.graph.links.length}\n" ++
    s!"  • Rendered outputs: {r.graph.secondary.length}\n" ++
    (if groups = 0 then "" else s!"  • Groups: {groups}\n") ++
    (if written.isEmpty then ""
      else "\nOutput files:\n" ++ String.join (written.map fun p => "  • " ++ p.text ++ "\n")) ++
    "\n"

def runGraph (e : Environment) (o : GraphOrder) : Action m Unit := do
  let settings ← settingsFor e o.overrides
  let verbose := settings.verbose.truthy
  Action.sayIf verbose (header ++ "Loading notebook: " ++ o.notebook ++ "\n")
  let groups ← match o.groups with
    | some name =>
      let file ← ExceptT.lift (fileNamed name)
      Action.ofOutcome (groupsIn name file)
    | none => pure .null
  let path := FilePath.ofText o.notebook
  let session ← Action.ofOutcome (Outcome.ofFault (Session.start settings))
  let (r, written) ← session.analyze path {
    groups
    collapse := o.collapse
    stem := .text (o.output.getD path.stem)
    formats := o.formats }
  Action.sayIf verbose (summary r written)

def listOrDash (names : List String) : String :=
  if names.isEmpty then "-" else ", ".intercalate names

def cellReport (g : CellGraph) (c : Cell) (n : CellNames) : String :=
  let tags := (g.secondary.filter fun a => a.ownerId? = some c.id).map (·.label.shown)
  s!"[{c.position}]\n" ++
    "  assigns: " ++ listOrDash n.assigned.toList ++ "\n" ++
    "  uses:    " ++ listOrDash n.used.toList ++ "\n" ++
    (if tags.isEmpty then "" else "  outputs: " ++ ", ".intercalate tags ++ "\n")

def linkReport (e : Link × List String) : String :=
  s!"  {e.1.source} -> {e.1.target}  (" ++ ", ".intercalate e.2 ++ ")\n"

def report (notebook : String) (cells : List Cell) (g : CellGraph) : String :=
  s!"\n{notebook}: {cells.length} code cells\n\n" ++
    String.join ((cells.zip (g.names.map (·.2))).map fun e => cellReport g e.1 e.2) ++
    "\nDependencies:\n" ++
    (if g.carried.entries.isEmpty then "  (none)\n" else String.join (g.carried.entries.map linkReport))

def runInfo (e : Environment) (notebook : String) (o : Overrides) : Action m Unit := do
  let settings ← settingsFor e o
  let cells ← Notebook.load (FilePath.ofText notebook) false
  let rules ← Action.ofOutcome (Outcome.ofFault (BuildRules.ofSettings settings))
  let graph ← Action.ofOutcome (rules.build cells)
  Action.say (report notebook cells graph)

def failureLine (f : Failure) : String :=
  if f.isOwn || f.isValueFailure then "\n✗ Error: " ++ f.message ++ "\n"
  else "\n✗ Unexpected error: " ++ f.kindName ++ ": " ++ f.message ++ "\n"

def exitCode (act : Action m Unit) : m Nat := do
  match ← act.run with
  | .ok _ => return 0
  | .error f =>
    Host.say (failureLine f)
    return 1

/-- How a run of the program ends: with a code, and perhaps a complaint for the error stream. -/
structure Ending where
  code : Nat
  complaint : String := ""
  early : Bool := false
  deriving DecidableEq, Repr

def run (e : Environment) (words : List String) : m Ending := do
  match Command.read words with
  | .error (.help program) =>
    Host.say (help program)
    return { code := 0, early := true }
  | .error .version =>
    Host.say (programName ++ " " ++ version ++ "\n")
    return { code := 0, early := true }
  | .error (.wrong program complaint) =>
    return { code := 2, complaint := usage program ++ program ++ ": error: " ++ complaint ++ "\n", early := true }
  | .ok .none =>
    Host.say (help programName)
    return { code := 0 }
  | .ok (.graph order) => return { code := ← exitCode (runGraph e order) }
  | .ok (.info notebook o) => return { code := ← exitCode (runInfo e notebook o) }

end CellFlow.CommandLine
