import SymbolGraph.Identity
import SymbolGraph.Resolution.Calls
import SymbolGraph.Resolution.Imports
import SymbolGraph.SourceFile

/-!
# Storing files and linking them

`Ingest.file` reads one file and stores its symbols, imports and calls: all of them, or nothing when
the file is not accepted or the project is unknown. `Ingest.link` then resolves the open imports and
calls of the project.
-/

set_option autoImplicit false

namespace SymbolGraph

/-- What one file contributed. -/
structure FileStats where
  symbols : Nat
  orphansSkipped : Nat
  conflicts : Nat
  imports : Nat
  /-- Calls that were not stored before. -/
  calls : Nat
  /-- Calls whose enclosing symbol was not stored. -/
  callsDropped : Nat
  deriving DecidableEq, Repr

namespace Ingest

/-- The store as a place where the declarations of a file are offered. -/
def storeSink (file : Store.FileScope) : SymbolSink Store := fun parentId declaration ↦
  Store.attempt (Store.upsertSymbol file parentId declaration)

/-- Stores the declarations of a file. -/
def declarations (file : Store.FileScope) (declared : List Declaration) :
    Store.Change PersistState := fun store ↦
  match persist (storeSink file) declared store with
  | (.ok state, next) => .ok (state, next)
  | (.error failure, _) => .error failure

/-- Stores the imports of a file. -/
def imports (file : Store.FileScope) : List ImportMention → Store.Change Unit
  | [] => pure ()
  | mention :: rest => do
    Store.upsertImport file mention
    imports file rest

/-- How many calls were new, and how many had no stored symbol around them. -/
structure CallCounts where
  stored : Nat
  dropped : Nat
  deriving DecidableEq, Repr

/-- Stores the calls of a file whose enclosing symbols have ids. -/
def calls (file : Store.FileScope) (scope : IdentityScope) :
    List CallMention → Store.Change CallCounts
  | [] => pure ⟨0, 0⟩
  | mention :: rest =>
    match scope.resolve? mention.caller with
    | none => do
      let counts ← calls file scope rest
      pure { counts with dropped := counts.dropped + 1 }
    | some callerId => do
      let isNew ← Store.insertCall file callerId mention.callee mention.line
      let counts ← calls file scope rest
      pure (if isNew then { counts with stored := counts.stored + 1 } else counts)

/-- Stores what was read from a file. -/
def extraction (file : Store.FileScope) (read : Extraction) : Store.Change FileStats := do
  let persisted ← declarations file read.declarations
  imports file read.imports
  let counts ← calls file persisted.scope read.calls
  pure
    { symbols := persisted.stats.stored,
      orphansSkipped := persisted.stats.orphansSkipped,
      conflicts := persisted.stats.conflicts,
      imports := read.imports.length,
      calls := counts.stored,
      callsDropped := counts.dropped }

/-- Reads a file and stores it. -/
def file (projectId : Int) (path source : String) : Store.Change FileStats := do
  let read ← SourceFile.extract path source
  extraction ⟨projectId, path⟩ read

/-- Resolves the open imports of a project and then its open calls. -/
def link (projectId : Int) (batchSize : Nat) :
    Store.Change (ResolutionStats × ResolutionStats) := do
  let imports ← Resolution.imports projectId batchSize
  let calls ← Resolution.calls projectId batchSize
  pure (imports, calls)

end Ingest

end SymbolGraph
