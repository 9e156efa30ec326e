/-!
The script of a page: it shows the nodes and edges that stand before it, filters them by kind
and finds a node by its label.
-/

set_option autoImplicit false

namespace CellFlow.Page

def script : List String :=
  ["",
   "const nodes = new vis.DataSet(allNodes);",
   "const edges = new vis.DataSet(allEdges);",
   "",
   "const container = document.getElementById('mynetwork');",
   "const data = \x7b nodes: nodes, edges: edges \x7d;",
   "",
   "const options = \x7b",
   "    physics: \x7b enabled: false \x7d,",
   "    layout: \x7b hierarchical: false \x7d,",
   "    interaction: \x7b",
   "        hover: true,",
   "        tooltipDelay: 100,",
   "        navigationButtons: true,",
   "        keyboard: true",
   "    \x7d,",
   "    nodes: \x7b",
   "        font: \x7b size: 14, face: 'Arial' \x7d,",
   "        borderWidth: 2",
   "    \x7d,",
   "    edges: \x7b",
   "        width: 2,",
   "        smooth: \x7b type: 'cubicBezier', forceDirection: 'vertical' \x7d",
   "    \x7d",
   "\x7d;",
   "",
   "const network = new vis.Network(container, data, options);",
   "",
   "document.getElementById('filterKind').addEventListener('change', function(e) \x7b",
   "    const filterValue = e.target.value;",
   "    nodes.clear();",
   "    edges.clear();",
   "    if (filterValue === 'all') \x7b",
   "        nodes.add(allNodes);",
   "        edges.add(allEdges);",
   "    \x7d else \x7b",
   "        const filtered = allNodes.filter(n => n.group === filterValue);",
   "        const ids = new Set(filtered.map(n => n.id));",
   "        nodes.add(filtered);",
   "        edges.add(allEdges.filter(e => ids.has(e.from) && ids.has(e.to)));",
   "    \x7d",
   "    network.fit();",
   "\x7d);",
   "",
   "document.getElementById('searchNode').addEventListener('input', function(e) \x7b",
   "    const searchTerm = e.target.value.toLowerCase();",
   "    if (!searchTerm) \x7b",
   "        allNodes.forEach(n => nodes.update(\x7b id: n.id, color: n.color, borderWidth: 2 \x7d));",
   "        return;",
   "    \x7d",
   "    allNodes.forEach(n => \x7b",
   "        const match = n.label.toLowerCase() === searchTerm;",
   "        nodes.update(\x7b",
   "            id: n.id,",
   "            color: match ? '#FFD700' : n.color,",
   "            borderWidth: match ? 4 : 2",
   "        \x7d);",
   "    \x7d);",
   "    const m = allNodes.find(n => n.label.toLowerCase() === searchTerm);",
   "    if (m) network.focus(m.id, \x7b scale: 1.5, animation: true \x7d);",
   "\x7d);",
   "",
   "function exportGraph() \x7b",
   "    const canvas = document.querySelector('#mynetwork canvas');",
   "    const link = document.createElement('a');",
   "    link.download = 'flowgraph.png';",
   "    link.href = canvas.toDataURL();",
   "    link.click();",
   "\x7d"]

end CellFlow.Page
