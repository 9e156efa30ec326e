import CellFlow.CommandLine.Command

/-!
Help: how the program and its commands are called, and what they do.
-/

set_option autoImplicit false

namespace CellFlow.CommandLine

def mainUsage : List String :=
  ["usage: notebook-flowgraph [-h] [--version] \x7bgraph,info\x7d ..."]

def mainGuide : List String :=
  ["",
   "Notebook Flow Graph - Build and lay out the cell dependency graph of a notebook.",
   "",
   "positional arguments:",
   "  \x7bgraph,info\x7d   Available commands",
   "    graph        Build, lay out and save the cell graph",
   "    info         Show identifiers, outputs and dependencies per cell",
   "",
   "options:",
   "  -h, --help     show this help message and exit",
   "  --version, -V  show program's version number and exit",
   "",
   "Examples:",
   "  # Build the graph of a Jupyter notebook",
   "  notebook-flowgraph graph notebook.ipynb",
   "",
   "  # Color and collapse cells by externally produced groups",
   "  notebook-flowgraph graph notebook.ipynb --groups groups.json --collapse-groups",
   "",
   "  # Left-to-right layout, JSON only",
   "  notebook-flowgraph graph notebook.ipynb --rank-direction LR --format json",
   "",
   "  # Show what each cell assigns and uses",
   "  notebook-flowgraph info notebook.ipynb",
   "        "]

def graphUsage : List String :=
  ["usage: notebook-flowgraph graph [-h] [--groups GROUPS] [--collapse-groups]",
   "                                [--config CONFIG] [--output OUTPUT]",
   "                                [--output-dir OUTPUT_DIR]",
   "                                [--format \x7ball,json,png,html\x7d]",
   "                                [--rank-direction \x7bTB,BT,LR,RL\x7d] [--dpi DPI]",
   "                                [--quiet]",
   "                                notebook"]

def graphGuide : List String :=
  ["",
   "positional arguments:",
   "  notebook              Path to notebook file (.ipynb, .py or trace .csv)",
   "",
   "options:",
   "  -h, --help            show this help message and exit",
   "  --groups GROUPS       JSON file with cell groups [\x7b\"label\", \"cell_start\",",
   "                        \"cell_end\"\x7d, ...]",
   "  --collapse-groups     Draw one node per group instead of one per cell",
   "  --config CONFIG       JSON configuration file (default: environment / built-",
   "                        in defaults)",
   "  --quiet, -q           Reduce output verbosity",
   "",
   "Output Configuration:",
   "  --output OUTPUT, -o OUTPUT",
   "                        Output file prefix (default: notebook file name)",
   "  --output-dir OUTPUT_DIR",
   "                        Output directory (default: flowgraph_output)",
   "  --format \x7ball,json,png,html\x7d",
   "                        Output format (default: all)",
   "",
   "Layout Options:",
   "  --rank-direction \x7bTB,BT,LR,RL\x7d",
   "                        Direction ranks are stacked in (default: TB)",
   "  --dpi DPI             DPI for the PNG output"]

def infoUsage : List String :=
  ["usage: notebook-flowgraph info [-h] [--config CONFIG] notebook"]

def infoGuide : List String :=
  ["",
   "positional arguments:",
   "  notebook         Path to notebook file",
   "",
   "options:",
   "  -h, --help       show this help message and exit",
   "  --config CONFIG  JSON configuration file (default: environment / built-in",
   "                   defaults)"]

def usageOf (program : String) : List String :=
  if program = graphForm.program then graphUsage
  else if program = infoForm.program then infoUsage
  else mainUsage

def guideOf (program : String) : List String :=
  if program = graphForm.program then graphGuide
  else if program = infoForm.program then infoGuide
  else mainGuide

def textOf (lines : List String) : String := String.join (lines.map (· ++ "\n"))

def usage (program : String) : String := textOf (usageOf program)

def help (program : String) : String := textOf (usageOf program ++ guideOf program)

end CellFlow.CommandLine
