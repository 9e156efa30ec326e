import CellFlow.Chart.Record
import CellFlow.Json.Writer
import CellFlow.Names.Extract
import CellFlow.Settings.Sections

/-!
Exporting charts and names as JSON text, and reading exported charts back. An exported chart
carries notes of its own: when it was written, by which version, and how large it is.
-/

set_option autoImplicit false

namespace CellFlow

def version : String := "0.1.0"

structure Exporter where
  indent : Value := .int 2
  sortKeys : Value := .bool false
  verbose : Value := .bool true
  deriving Inhabited, Repr

namespace Exporter

def set : Setter Exporter
  | "indent", v, e => some { e with indent := v }
  | "sort_keys", v, e => some { e with sortKeys := v }
  | "verbose", v, e => some { e with verbose := v }
  | _, _, _ => none

def ofValue (v : Value) : Except Fault Exporter := readSection "JSONExporter" set {} v

/-- The indent of one level: so many blanks, or a text of its own. -/
def indentText : Value → Except Fault (Option String)
  | .null => .ok none
  | .text s => .ok (some s)
  | .int n => .ok (some (String.ofList (List.replicate n.toNat ' ')))
  | .bool b => .ok (some (if b then " " else ""))
  | v => .error (.repeatCount v.kind.name)

def layout (e : Exporter) : Except Fault Json.Layout := do
  let indent ← indentText e.indent
  return ⟨indent, e.sortKeys.truthy⟩

/-- The notes of an exported chart; a later note replaces an earlier one of its name. -/
def notes (time : String) (c : Chart Float) (statistics : Value) : Except Fault Fields := do
  let own : Fields :=
    [("timestamp", .text time), ("version", .text version), ("nodes", .int c.nodes.length),
     ("edges", .int c.edges.length)]
  let extra : Fields ←
    if statistics.truthy then do
      let fs ← statistics.toFields
      pure [("statistics", .object fs)]
    else pure []
  return (own ++ extra).foldl (fun fs f => Fields.set fs f.1 f.2) c.notes

def chartText (e : Exporter) (time : String) (c : Chart Float) (statistics : Value) :
    Except Fault String := do
  let notes ← notes time c statistics
  let layout ← e.layout
  Json.writeChecked layout { c with notes }.toValue

def payloadText (e : Exporter) (c : Chart Float) : Except Fault String := do
  let layout ← e.layout
  Json.writeChecked layout (.object [("nodes", .list (c.nodes.map ChartNode.toValue)),
    ("edges", .list (c.edges.map ChartEdge.toValue))])

def namesRecord (e : Int × CellNames) : Value :=
  .object [("position", .int e.1), ("assigned", .list (e.2.assigned.toList.map .text)),
    ("used", .list (e.2.used.toList.map .text))]

def namesText (e : Exporter) (time : String) (names : Table Int CellNames) : Except Fault String := do
  let layout ← e.layout
  let sorted := sortBy (fun a b => a.1 ≤ b.1) names.entries
  return Json.write layout (.object [("timestamp", .text time),
    ("cells", .list (sorted.map namesRecord))])

def notice (e : Exporter) (what path : String) : String :=
  if e.verbose.truthy then "✓ " ++ what ++ " exported to " ++ path ++ "\n" else ""

end Exporter

def Chart.ofText (text : String) : Outcome (Chart Float) :=
  match Json.read text with
  | .ok v => Chart.ofValue v
  | .error e => .error (.ofRead e)

end CellFlow
