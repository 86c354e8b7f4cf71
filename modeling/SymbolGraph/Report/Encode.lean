import SymbolGraph.DeadCode
import SymbolGraph.Impact.Graph
import SymbolGraph.Ingest.Repository
import SymbolGraph.Json

/-!
# Reports as JSON values

Each report as the named fields that it is written with. A signature is left out where there is
none; other absent values are null.
-/

set_option autoImplicit false

namespace SymbolGraph

/-- The fields of a project. -/
def Project.json (project : Project) : Json :=
  .object
    [("id", .number project.id), ("name", .text project.name), ("repo_url", .text project.url)]

/-- The fields of a symbol in a report. -/
def SymbolSummary.json (symbol : SymbolSummary) : Json :=
  .object <|
    [("id", .number symbol.id), ("kind", .text symbol.kind), ("name", .text symbol.name),
     ("file_path", .text symbol.filePath), ("start_line", .number symbol.startLine)] ++
      Json.present "signature" .text symbol.signature

/-- The counts of a resolution. -/
def ResolutionStats.json (stats : ResolutionStats) : Json :=
  .object
    [("total", .count stats.total), ("resolved", .count stats.resolved),
     ("newly_resolved", .count stats.newlyResolved)]

/-- The counts of a file. -/
def FileStats.json (stats : FileStats) : Json :=
  .object
    [("symbols", .count stats.symbols), ("orphans_skipped", .count stats.orphansSkipped),
     ("conflicts", .count stats.conflicts), ("imports", .count stats.imports),
     ("calls", .count stats.calls), ("calls_dropped", .count stats.callsDropped)]

/-- The counts of a run. -/
def IngestSummary.json (summary : IngestSummary) : Json :=
  .object
    [("project_id", .number summary.projectId), ("files_scanned", .count summary.filesScanned),
     ("files_processed", .count summary.filesProcessed),
     ("files_failed", .count summary.filesFailed), ("symbols", .count summary.symbols),
     ("orphans_skipped", .count summary.orphansSkipped),
     ("conflicts", .count summary.conflicts), ("imports", summary.imports.json),
     ("calls", summary.calls.json)]

/-- The counts of a project. -/
def ProjectOverview.json (overview : ProjectOverview) : Json :=
  .object
    [("project", overview.project.json), ("files", .count overview.files),
     ("symbols", .count overview.symbols),
     ("symbols_by_kind", .object (overview.symbolsByKind.map fun (kind, count) ↦
       (kind, .count count))),
     ("imports", overview.imports.json), ("calls", overview.calls.json)]

/-- The fields of a call site. -/
def ImpactEntry.json (entry : ImpactEntry) : Json :=
  .object
    [("caller", entry.caller.json), ("file_path", .text entry.filePath),
     ("line", .number entry.line), ("depth", .count entry.depth),
     ("callee_id", .number entry.calleeId)]

/-- The fields of a depth. -/
def DepthSummary.json (summary : DepthSummary) : Json :=
  .object [("depth", .count summary.depth), ("callers", .count summary.callers)]

/-- The named fields of an impact report. -/
def ImpactReport.fields (report : ImpactReport) : List (String × Json) :=
  [("target", report.target.json), ("ambiguous_with", .count report.ambiguousWith),
   ("max_depth", .count report.maxDepth), ("entries", .list (report.entries.map (·.json))),
   ("direct", .count report.direct), ("ripple", .count report.ripple),
   ("by_depth", .list (report.byDepth.map (·.json))), ("truncated", .bool report.truncated)]

/-- The answer to an impact query, which begins with its status. -/
def ImpactOutcome.json : ImpactOutcome → Json
  | .notFound symbol => .object [("status", .text "not_found"), ("symbol", .text symbol)]
  | .found report => .object (("status", .text "found") :: report.fields)

/-- The nodes and edges of a graph. -/
def ImpactGraph.json (graph : ImpactGraph) : Json :=
  .object
    [("nodes", .list (graph.nodes.map fun node ↦ .object
       [("id", .number node.id), ("label", .text node.label), ("file_path", .text node.filePath),
        ("rank", .count node.rank)])),
     ("edges", .list (graph.edges.map fun edge ↦ .object
       [("source", .number edge.source), ("target", .number edge.target),
        ("line", .number edge.line)]))]

/-- The fields of a dead-code report. -/
def DeadCodeReport.json (report : DeadCodeReport) : Json :=
  .object
    [("symbols", .list (report.symbols.map (·.json))), ("total", .count report.total),
     ("truncated", .bool report.truncated), ("caveat", .text DeadCode.caveat)]

end SymbolGraph
