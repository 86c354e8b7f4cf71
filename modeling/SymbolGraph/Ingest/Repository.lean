import SymbolGraph.Ingest.File
import SymbolGraph.Scan

/-!
# Storing a repository

`Ingest.repository` stores the files of a scan under a project, which is added when it is new, and
then links what was stored. A file over the size limit is passed over; one that is not valid text,
or whose error concerns only that file, counts as failed and leaves nothing behind.
-/

set_option autoImplicit false

namespace SymbolGraph

/-- What a run over a repository found and stored. -/
structure IngestSummary where
  projectId : Int
  filesScanned : Nat
  filesProcessed : Nat
  filesFailed : Nat
  symbols : Nat
  orphansSkipped : Nat
  conflicts : Nat
  imports : ResolutionStats
  calls : ResolutionStats
  deriving DecidableEq, Repr

/-- How the reading of one file ended. -/
inductive FileOutcome where
  | stored (stats : FileStats)
  /-- The file is over the size limit. -/
  | passedOver
  | failed
  deriving DecidableEq, Repr

/-- What the file contributed, if it was stored. -/
def FileOutcome.stats? : FileOutcome → Option FileStats
  | .stored stats => some stats
  | .passedOver => none
  | .failed => none

namespace Ingest

/-- Reads a file and stores it; an error that concerns only this file is its outcome. -/
def source (projectId : Int) (path text : String) : Store.Change FileOutcome := fun store ↦
  match (file projectId path text).run store with
  | .ok (stats, next) => .ok (.stored stats, next)
  | .error failure => if failure.isRecoverable then .ok (.failed, store) else .error failure

/-- Stores a scanned file. -/
def scanned (projectId : Int) (maxBytes : Nat) (found : ScannedFile) :
    Store.Change FileOutcome :=
  if maxBytes < found.size then pure .passedOver
  else
    match found.text? with
    | none => pure .failed
    | some text => source projectId found.path text

/-- Stores scanned files, one after the other. -/
def scannedFiles (projectId : Int) (maxBytes : Nat) :
    List ScannedFile → Store.Change (List FileOutcome)
  | [] => pure []
  | found :: rest => do
    let outcome ← scanned projectId maxBytes found
    let others ← scannedFiles projectId maxBytes rest
    pure (outcome :: others)

/-- A count of stored files, all together. -/
def total (count : FileStats → Nat) : List FileStats → Nat
  | [] => 0
  | stats :: rest => count stats + total count rest

/-- The summary of a run that ended with these outcomes and resolutions. -/
def summarize (projectId : Int) (outcomes : List FileOutcome)
    (linked : ResolutionStats × ResolutionStats) : IngestSummary :=
  let stored := outcomes.filterMap (·.stats?)
  { projectId,
    filesScanned := outcomes.length,
    filesProcessed := stored.length,
    filesFailed := outcomes.countP (· = .failed),
    symbols := total (·.symbols) stored,
    orphansSkipped := total (·.orphansSkipped) stored,
    conflicts := total (·.conflicts) stored,
    imports := linked.1,
    calls := linked.2 }

/-- Stores the scanned files of a project and links the project. -/
def repository (name url : String) (maxBytes batchSize : Nat) (found : List ScannedFile) :
    Store.Change IngestSummary := do
  let project ← Store.ensureProject name url
  let outcomes ← scannedFiles project.id maxBytes found
  let linked ← link project.id batchSize
  pure (summarize project.id outcomes linked)

end Ingest

end SymbolGraph
