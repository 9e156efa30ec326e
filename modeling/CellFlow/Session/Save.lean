import CellFlow.Notebook.Load
import CellFlow.Page.Document
import CellFlow.Session.Build

/-!
Saving results: the chart as JSON text, its figure as a picture, and its page. Neither a
picture nor a page that fails stops the others; a chart that cannot be written does.
-/

set_option autoImplicit false

namespace CellFlow

inductive OutputFormat where
  | json | png | html
  deriving DecidableEq, Repr

namespace OutputFormat

def all : List OutputFormat := [.json, .png, .html]

def name : OutputFormat → String
  | .json => "json"
  | .png => "png"
  | .html => "html"

/-- The formats with the given names; other names stand for none. Where no names are given,
all formats are meant. -/
def ofValue (v : Value) : Except Fault (List OutputFormat) := do
  if !v.truthy then return all
  let names ← (← v.elements).mapM Value.toKey
  return all.filter fun f => names.any (· == .text f.name)

def allNames : Value := .list (all.map fun f => .text f.name)

end OutputFormat

namespace Session

variable {m : Type → Type} [Monad m] [Host m]

def timed {α : Type} (t : Telling α) : Action m α := do
  let start ← ExceptT.lift Host.clock
  let (outcome, notices) := t.run.run []
  let stop ← ExceptT.lift Host.clock
  let hundredths := (stop - start + 5) / 10
  notices.forM fun n => Action.say (n.text hundredths)
  Action.ofOutcome outcome

def run (s : Session) (cells : List Cell) (groups : Value) (collapse : Bool) : Action m Result := do
  let d ← timed (s.draft cells groups)
  let d ← timed (s.regroup d collapse)
  timed (s.arrange d)

def outputPath (folder : FilePath) (stem ending : String) : FilePath :=
  .ofText ((folder.join stem).text ++ ending)

def saveChart (s : Session) (r : Result) (path : FilePath) : Action m (List FilePath) := do
  let time ← ExceptT.lift Host.time
  let text ← Action.ofOutcome (s.exporter.chartText time r.chart (.object r.statistics))
  Action.write path (.text text)
  Action.say (s.exporter.notice "Graph" path.text)
  return [path]

/-- Does an action; a failure of an expected kind is said instead of passed on. -/
def attempt {α : Type} (isExpected : Failure → Bool) (warning : String) (act : Action m (List α)) :
    Action m (List α) := do
  match ← ExceptT.lift act.run with
  | .ok l => return l
  | .error f =>
    if isExpected f then
      Action.say ("⚠ " ++ warning ++ ": " ++ f.message ++ "\n")
      return []
    else throw f

def isRefusal : Failure → Bool
  | .refused why _ => why.isForeign
  | _ => false

def savePicture (s : Session) (r : Result) (path : FilePath) : Action m (List FilePath) :=
  attempt (fun f => isRefusal f || f.isValueFailure) ("Failed to save " ++ path.text) do
    let c := s.settings
    let figure ← Action.ofOutcome
      (Figure.draw c.layout c.figure .parentheses Figure.standardTitle .null r.chart)
    let resolution ← Action.ofOutcome (Outcome.ofFault (Figure.resolutionOf c.figure.dpi))
    Action.ofOutcome (Figure.checkDots figure.size resolution)
    Action.write path (.picture figure resolution)
    Action.sayIf s.isVerbose ("✓ Saved " ++ path.text ++ "\n")
    return [path]

def savePage (s : Session) (r : Result) (path : FilePath) : Action m (List FilePath) :=
  attempt isRefusal "Failed to create interactive HTML" do
    let page ← Action.ofOutcome (Page.write r.chart (.object r.statistics))
    Action.write path (.text page)
    Action.sayIf s.isVerbose (Page.notice path.text)
    return [path]

def readStem : Value → Except Fault String
  | .text s => .ok s
  | v => .error (.operands "/" "PosixPath" v.kind.name)

/-- Saves a result in some formats under a common stem; gives the paths of what is written.
Settings may turn pictures and pages off. -/
def save (s : Session) (r : Result) (stem formats : Value) : Action m (List FilePath) := do
  let formats ← Action.ofOutcome (Outcome.ofFault (OutputFormat.ofValue formats))
  let folder ← Action.ofOutcome (Outcome.ofFault (FilePath.ofValue s.folder))
  Action.ofRefusal folder.text (Host.makeFolders folder)
  let path := outputPath folder (← Action.ofOutcome (Outcome.ofFault (readStem stem)))
  Action.sayIf s.isVerbose "\nSaving outputs...\n"
  let charts ← if .json ∈ formats then s.saveChart r (path "_graph.json") else pure []
  if .png ∈ formats || .html ∈ formats then Action.ofOutcome (s.require .figure)
  let pictures ← if .png ∈ formats && s.settings.figure.enabled.truthy then
      s.savePicture r (path "_graph.png")
    else pure []
  let pages ← if .html ∈ formats && s.settings.figure.interactiveHtml.truthy then
      s.savePage r (path "_interactive.html")
    else pure []
  let written := charts ++ pictures ++ pages
  Action.sayIf s.isVerbose s!"\n✅ {written.length} outputs saved to {folder.text}\n"
  return written

structure Analysis where
  groups : Value := .null
  collapse : Bool := false
  save : Bool := true
  stem : Value := .null
  formats : Value := .null

def analyze (s : Session) (path : FilePath) (a : Analysis) : Action m (Result × List FilePath) := do
  let cells ← Notebook.load path s.isVerbose
  let r ← s.run cells a.groups a.collapse
  if a.save then
    let stem := match a.stem with
      | .null => .text path.stem
      | stem => stem
    let written ← s.save r stem a.formats
    return (r, written)
  else return (r, [])

end Session

end CellFlow
