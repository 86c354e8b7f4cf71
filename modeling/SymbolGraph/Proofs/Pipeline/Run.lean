import SymbolGraph.Proofs.Pipeline.Operation

/-!
# Runs over files

A run ingests files one after the other, each of which may fail without leaving anything behind, and
then links the project (`Ingest.run`). Its report has the outcome of every file, the counts of the
link and the store. What writes to files preserve, ingesting files preserves
(`Ingest.relates_files`), and the link of a run does not fail (`Ingest.run_eq`).
-/

set_option autoImplicit false
set_option relaxedAutoImplicit false

namespace SymbolGraph

/-- A source file with its text. -/
structure SourceText where
  path : String
  source : String
  deriving DecidableEq, Repr

/-- How a run over files ended. -/
structure RunReport where
  /-- What each file contributed, or why it was not stored. -/
  outcomes : List (Except GraphError FileStats)
  /-- The counts of imports and of calls. -/
  linked : Except GraphError (ResolutionStats × ResolutionStats)
  store : Store

namespace Ingest

/-- Stores files one after the other, those that fail leaving nothing behind. -/
def files (projectId : Int) :
    List SourceText → Store → List (Except GraphError FileStats) × Store
  | [], store => ([], store)
  | text :: rest, store =>
    let (outcome, next) := Store.attempt (file projectId text.path text.source) store
    let (outcomes, last) := files projectId rest next
    (outcome :: outcomes, last)

/-- Stores files and then links their project. -/
def run (projectId : Int) (batchSize : Nat) (texts : List SourceText) (store : Store) :
    RunReport :=
  let (outcomes, stored) := files projectId texts store
  let (linked, last) := Store.attempt (link projectId batchSize) stored
  ⟨outcomes, linked, last⟩

theorem length_files (projectId : Int) (texts : List SourceText) (store : Store) :
    (files projectId texts store).1.length = texts.length := by
  induction texts generalizing store with
  | nil => rfl
  | cons text rest ih => exact congrArg (· + 1) (ih _)

/-- What writes to files preserve, ingesting files preserves, whichever of them fail. -/
theorem relates_files {relation : Store → Store → Prop}
    (hrelation : Store.KeptByFileWrites relation) (projectId : Int) (texts : List SourceText)
    (store : Store) : relation store (files projectId texts store).2 := by
  induction texts generalizing store with
  | nil => exact hrelation.refl store
  | cons text rest ih =>
    have hfile := preserves_file hrelation projectId text.path text.source
    exact hrelation.trans _ _ _ (hfile.attempt hrelation.toIsPreorder store) (ih _)

theorem wellFormed_files {store : Store} (hstore : store.WellFormed) (projectId : Int)
    (texts : List SourceText) : (files projectId texts store).2.WellFormed :=
  relates_files Store.keptByWrites_wellFormed.toKeptByFileWrites projectId texts store hstore

/-- A run links what its files left in a well-formed store. -/
theorem run_eq {store : Store} (hstore : store.WellFormed) (projectId : Int) (batchSize : Nat)
    (texts : List SourceText) : run projectId batchSize texts store =
      let stored := (files projectId texts store).2
      ⟨(files projectId texts store).1, .ok (Resolution.linkStats stored projectId batchSize),
        Resolution.linked stored projectId batchSize⟩ := by
  have hlink := Resolution.link_run (wellFormed_files hstore projectId texts) projectId batchSize
  unfold run Store.attempt
  dsimp only
  rw [hlink]

/-- Linking leaves the symbols that files have. -/
theorem symbols_run {store : Store} (hstore : store.WellFormed) (projectId : Int) (batchSize : Nat)
    (texts : List SourceText) : (run projectId batchSize texts store).store.symbols =
      (files projectId texts store).2.symbols := by
  rw [run_eq hstore]
  rfl

end Ingest

end SymbolGraph
