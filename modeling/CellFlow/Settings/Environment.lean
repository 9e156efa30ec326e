import CellFlow.Data.Access
import CellFlow.Settings.Basic

/-!
Settings from the environment: variables whose values replace standard ones. A variable that
is not set, or set to nothing, replaces nothing.
-/

set_option autoImplicit false

namespace CellFlow

abbrev Environment := List (String × String)

namespace Environment

/-- The value of a variable, unless it is empty. -/
def get? (e : Environment) (name : String) : Option String :=
  (e.lookup name).filter fun s => !s.isEmpty

def apply (e : Environment) (name : String) (change : String → Settings → Outcome Settings)
    (s : Settings) : Outcome Settings :=
  match e.get? name with
  | some v => change v s
  | none => .ok s

def setFolder (v : String) (s : Settings) : Outcome Settings :=
  .ok { s with outputFolder := .ofText v }

def setVerbose (v : String) (s : Settings) : Outcome Settings :=
  .ok { s with verbose := .bool (Text.lowered v == "true") }

def setDirection (v : String) (s : Settings) : Outcome Settings := do
  let code := Text.uppered v
  let _ ← Direction.ofValue (.text code)
  return { s with layout := { s.layout with rankDirection := .text code } }

def setNodeGap (v : String) (s : Settings) : Outcome Settings := do
  let x ← Value.toReal (.text v)
  return { s with layout := { s.layout with nodeSep := .float x } }

def setRankGap (v : String) (s : Settings) : Outcome Settings := do
  let x ← Value.toReal (.text v)
  return { s with layout := { s.layout with rankSep := .float x } }

def setResolution (v : String) (s : Settings) : Outcome Settings := do
  let n ← Value.toInteger (.text v)
  return { s with figure := { s.figure with dpi := .int n } }

def names : List String :=
  ["FLOWGRAPH_OUTPUT_DIR", "FLOWGRAPH_VERBOSE", "FLOWGRAPH_RANK_DIRECTION", "FLOWGRAPH_NODE_SEP",
   "FLOWGRAPH_RANK_SEP", "FLOWGRAPH_DPI"]

def settings (e : Environment) : Outcome Settings := do
  let s ← e.apply "FLOWGRAPH_OUTPUT_DIR" setFolder {}
  let s ← e.apply "FLOWGRAPH_VERBOSE" setVerbose s
  let s ← e.apply "FLOWGRAPH_RANK_DIRECTION" setDirection s
  let s ← e.apply "FLOWGRAPH_NODE_SEP" setNodeGap s
  let s ← e.apply "FLOWGRAPH_RANK_SEP" setRankGap s
  e.apply "FLOWGRAPH_DPI" setResolution s

end Environment

end CellFlow
