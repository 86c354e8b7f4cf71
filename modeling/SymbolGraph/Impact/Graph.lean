import SymbolGraph.Impact.Traversal

/-!
# The impact graph

`ImpactGraph.ofReport` turns a report into a graph for drawing: a node for the analysed symbol and
one for every caller, ranked by depth, and an edge from caller to callee for every call site.
`ImpactGraph.toDot` writes it in the DOT language. A node's label shows the symbol and its file on
two lines; quotes and backslashes inside them are escaped.
-/

set_option autoImplicit false

namespace SymbolGraph

/-- A symbol of the graph. -/
structure GraphNode where
  id : Int
  label : String
  filePath : String
  /-- Zero for the analysed symbol, otherwise the depth at which the caller was met. -/
  rank : Nat
  deriving DecidableEq, Repr

/-- A call, from caller to callee. -/
structure GraphEdge where
  source : Int
  target : Int
  line : Int
  deriving DecidableEq, Repr

/-- Symbols and the calls between them. -/
structure ImpactGraph where
  nodes : List GraphNode
  edges : List GraphEdge
  deriving DecidableEq, Repr

namespace ImpactGraph

/-- Adds a node, unless its symbol has one. -/
def addNode (graph : ImpactGraph) (node : GraphNode) : ImpactGraph :=
  if graph.nodes.any fun other ↦ other.id == node.id then graph
  else { graph with nodes := graph.nodes ++ [node] }

/-- Adds an edge, unless it is there. -/
def addEdge (graph : ImpactGraph) (edge : GraphEdge) : ImpactGraph :=
  if graph.edges.contains edge then graph
  else { graph with edges := graph.edges ++ [edge] }

/-- Adds the caller and the call of a call site. -/
def addEntry (graph : ImpactGraph) (entry : ImpactEntry) : ImpactGraph :=
  (graph.addNode
    { id := entry.caller.id, label := entry.caller.name, filePath := entry.caller.filePath,
      rank := entry.depth }).addEdge
    { source := entry.caller.id, target := entry.calleeId, line := entry.line }

/-- The graph of one symbol and no call. -/
def single (target : SymbolSummary) : ImpactGraph where
  nodes := [{ id := target.id, label := target.name, filePath := target.filePath, rank := 0 }]
  edges := []

/-- The graph of a report. A caller met at several depths keeps the first, which is the smallest. -/
def ofReport (report : ImpactReport) : ImpactGraph :=
  report.entries.foldl addEntry (single report.target)

/-- A text with a backslash put before a character wherever it occurs. -/
def marked (character : Char) (text : List Char) : List Char :=
  text.flatMap fun other ↦ if other = character then ['\\', other] else [other]

/-- A text inside a label. Its backslashes are marked first and then its quotes. -/
def escaped (text : String) : String :=
  String.ofList (marked '"' (marked '\\' text.toList))

/-- The line of a node. -/
def nodeLine (node : GraphNode) : String :=
  "  n" ++ toString node.id ++ " [label=\"" ++ escaped node.label ++ "\\n" ++
    escaped node.filePath ++ "\"" ++ (if node.rank = 0 then ", style=bold" else "") ++ "];\n"

/-- The line of an edge. -/
def edgeLine (edge : GraphEdge) : String :=
  "  n" ++ toString edge.source ++ " -> n" ++ toString edge.target ++ " [label=\"" ++
    toString edge.line ++ "\"];\n"

/-- The graph in the DOT language. -/
def toDot (graph : ImpactGraph) : String :=
  "digraph impact \x7b\n  rankdir=LR;\n  node [shape=box];\n" ++
    String.join (graph.nodes.map nodeLine) ++ String.join (graph.edges.map edgeLine) ++ "\x7d\n"

end ImpactGraph

end SymbolGraph
