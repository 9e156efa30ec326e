import CellFlow.Artifact
import CellFlow.Json.Writer
import CellFlow.Page.Item
import CellFlow.Page.Script
import CellFlow.Page.Style

/-!
The page that shows a chart: a header with counts, controls, the drawing area, a legend, and
a script that holds the nodes and edges.
-/

set_option autoImplicit false

namespace CellFlow.Page

def head : List String :=
  ["<!DOCTYPE html>",
   "<html>",
   "<head>",
   "    <title>Notebook Flow Graph - Interactive</title>",
   "    <meta charset=\"utf-8\" />",
   "    <meta name=\"viewport\" content=\"width=device-width, initial-scale=1\">",
   "    <script src=\"https://unpkg.com/vis-network@9.1.2/dist/vis-network.min.js\"></script>",
   "    <style>"] ++ styleLines ++
  ["    </style>",
   "</head>"]

def banner : List String :=
  ["    <div class=\"header\">",
   "        <h1>Notebook Flow Graph</h1>",
   "        <p>Cells, their variable dependencies and rendered outputs</p>",
   "    </div>",
   ""]

def count (label value : String) : List String :=
  ["        <div class=\"stat\">",
   "            <span class=\"stat-label\">" ++ label ++ "</span>",
   "            <span class=\"stat-value\">" ++ value ++ "</span>",
   "        </div>"]

def counts (statistics : Fields) (nodes edges : Nat) : List String :=
  let given (key : String) : String := (Fields.getD statistics key (.int 0)).shown
  ["    <div class=\"stats\">"] ++
    count "Cells" (given "cells") ++ count "Dependencies" (toString edges) ++
    count "Outputs" (given "artifacts") ++ count "Graph Nodes" (toString nodes) ++
  ["    </div>",
   ""]

def controls : List String :=
  ["    <div class=\"controls\">",
   "        <div class=\"control-group\">",
   "            <label for=\"filterKind\">Show:</label>",
   "            <select id=\"filterKind\">",
   "                <option value=\"all\">All Nodes</option>",
   "                <option value=\"" ++ NodeKind.primary.code ++ "\">Cells Only</option>",
   "                <option value=\"" ++ NodeKind.group.code ++ "\">Groups Only</option>",
   "            </select>",
   "        </div>",
   "        <div class=\"control-group\">",
   "            <label for=\"searchNode\">Search:</label>",
   "            <input type=\"text\" id=\"searchNode\" placeholder=\"Cell number...\" />",
   "        </div>",
   "        <button onclick=\"network.fit()\">Reset View</button>",
   "        <button onclick=\"exportGraph()\">Export as PNG</button>",
   "    </div>",
   ""]

def legendItem (label color : String) : List String :=
  ["            <div class=\"legend-item\">",
   "                <div class=\"legend-color\" style=\"background: " ++ color ++ ";\"></div>",
   "                <span>" ++ Text.markup label ++ "</span>",
   "            </div>"]

def labelText : Key → Except Fault String
  | .text s => .ok s
  | v => .error (.noAttribute v.kind "replace")

def legend (colors : Colors) : Except Fault (List String) := do
  let labels ← colors.mapM fun e => do
    let label ← labelText e.1
    return legendItem label e.2.shown
  return ["    <div class=\"legend\">",
    "        <h3 style=\"margin-bottom: 10px;\">Legend</h3>",
    "        <div class=\"legend-items\">"] ++
    labels.flatten ++ (Tag.legend.flatMap fun t => legendItem ("output: " ++ t.code) t.color) ++
    ["        </div>",
     "    </div>",
     ""]

def dataLine (name : String) (values : List Fields) : String :=
  "        const " ++ name ++ " = " ++ Json.write Json.oneLine (.list (values.map .object)) ++ ";"

def scriptLines (nodes : List NodeItem) (edges : List EdgeItem) : List String :=
  ["    <script type=\"text/javascript\">",
   dataLine "allNodes" (nodes.map NodeItem.toFields),
   dataLine "allEdges" (edges.map EdgeItem.toFields)] ++ indent 8 script ++
  ["    </script>"]

def readStatistics (v : Value) : Except Fault Fields := if v.truthy then v.fields else .ok []

def write (c : Chart Float) (statistics : Value) : Except Fault String := do
  let (nodes, edges) ← items c
  let statistics ← readStatistics statistics
  let legend ← legend c.colors
  nodes.forM checkSize
  let lines := head ++ ["<body>"] ++ banner ++ counts statistics nodes.length edges.length ++
    controls ++ ["    <div id=\"mynetwork\"></div>", ""] ++ legend ++ scriptLines nodes edges ++
    ["</body>", "</html>", ""]
  return "\n".intercalate lines

def notice (path : String) : String := "✓ Interactive HTML saved to " ++ path ++ "\n"

end CellFlow.Page
