import Mathlib.Data.List.Induction
import SymbolGraph.Proofs.Ingest.Writes
import SymbolGraph.Proofs.Resolution.Link

/-!
# Stores that operations reach

An `Operation` is one of the ways in which a store is changed from outside: a project is ensured, a
file is written in one transaction, rows are resolved by hand, a source file is ingested, or a
project is linked. An operation that fails leaves the store as it was, and the next one may follow
(`Operation.apply`). `storeAfter` is the store that a list of operations leads to from the empty
one, and a `PipelineStep` is one of the operations of an ordinary run: ensuring projects, ingesting
files and linking.

What all writes preserve is preserved by every operation (`KeptByWrites.runAll`), so every store
that operations reach is well formed (`wellFormed_storeAfter`). Linking a well-formed store does not
fail, so it does not matter that its pages would be kept one by one.
-/

set_option autoImplicit false
set_option relaxedAutoImplicit false

namespace SymbolGraph

/-- A change of the store from outside. -/
inductive Operation where
  | ensureProject (name url : String)
  /-- A transaction on the rows of one file, which may read every answer and give up. -/
  | writeFile (file : Store.FileScope) (writer : FileWriter Unit)
  | resolveImports (pairs : List (Int × Int))
  | resolveCalls (pairs : List (Int × Int))
  | ingestFile (projectId : Int) (path source : String)
  | link (projectId : Int) (batchSize : Nat)

namespace Operation

/-- The store after an operation, whether it succeeded or failed. -/
def apply : Operation → Store → Store
  | ensureProject name url, store => (Store.attempt (Store.ensureProject name url) store).2
  | writeFile file writer, store => (Store.attempt (Store.writeFile file writer) store).2
  | resolveImports pairs, store => (Store.attempt (Store.resolveImports pairs) store).2
  | resolveCalls pairs, store => (Store.attempt (Store.resolveCalls pairs) store).2
  | ingestFile projectId path source, store =>
    (Store.attempt (Ingest.file projectId path source) store).2
  | link projectId batchSize, store => (Store.attempt (Ingest.link projectId batchSize) store).2

/-- The store after operations, one after the other. -/
def runAll (operations : List Operation) (store : Store) : Store :=
  operations.foldl (fun before operation ↦ operation.apply before) store

end Operation

/-- The store that operations lead to from the empty one. -/
def storeAfter (operations : List Operation) : Store :=
  Operation.runAll operations .empty

/-- What an ordinary run is made of. -/
inductive PipelineStep where
  | ensureProject (name url : String)
  | ingestFile (projectId : Int) (path source : String)
  | link (projectId : Int) (batchSize : Nat)

/-- The operation that a step is. -/
def PipelineStep.operation : PipelineStep → Operation
  | ensureProject name url => .ensureProject name url
  | ingestFile projectId path source => .ingestFile projectId path source
  | link projectId batchSize => .link projectId batchSize

/-- The store that the steps of ordinary runs lead to from the empty one. -/
def storeAfterSteps (steps : List PipelineStep) : Store :=
  storeAfter (steps.map PipelineStep.operation)

namespace Store

/-! ### Invariants -/

variable {relation : Store → Store → Prop}

/-- What all writes preserve, every operation preserves. -/
theorem KeptByWrites.apply (hrelation : KeptByWrites relation) (operation : Operation)
    (store : Store) : relation store (operation.apply store) := by
  have hpreorder := hrelation.toIsPreorder
  cases operation with
  | ensureProject name url => exact (hrelation.ensureProject name url).attempt hpreorder store
  | writeFile file writer => exact (hrelation.writeFile file writer).attempt hpreorder store
  | resolveImports pairs =>
    exact (Preserves.resolveAll hpreorder hrelation.resolveImport pairs).attempt hpreorder store
  | resolveCalls pairs =>
    exact (Preserves.resolveAll hpreorder hrelation.resolveCall pairs).attempt hpreorder store
  | ingestFile projectId path source =>
    have hfile := Ingest.preserves_file hrelation.toKeptByFileWrites projectId path source
    exact hfile.attempt hpreorder store
  | link projectId batchSize =>
    exact (Resolution.preserves_link hrelation projectId batchSize).attempt hpreorder store

/-- What all writes preserve, operations preserve in any order. -/
theorem KeptByWrites.runAll (hrelation : KeptByWrites relation) (operations : List Operation)
    (store : Store) : relation store (Operation.runAll operations store) := by
  induction operations generalizing store with
  | nil => exact hrelation.refl store
  | cons operation rest ih =>
    exact hrelation.trans _ _ _ (hrelation.apply operation store) (ih (operation.apply store))

end Store

/-- Every store that operations reach is well formed. -/
theorem wellFormed_storeAfter (operations : List Operation) : (storeAfter operations).WellFormed :=
  Store.keptByWrites_wellFormed.runAll operations .empty Store.wellFormed_empty

/-- Linking a well-formed store settles what is open in the project. -/
theorem apply_link {store : Store} (hstore : store.WellFormed) (projectId : Int)
    (batchSize : Nat) : (Operation.link projectId batchSize).apply store =
      Resolution.linked store projectId batchSize := by
  simp [Operation.apply, Store.attempt, Resolution.link_run hstore projectId batchSize]

theorem storeAfterSteps_concat (earlier : List PipelineStep) (step : PipelineStep) :
    storeAfterSteps (earlier ++ [step]) = step.operation.apply (storeAfterSteps earlier) := by
  rw [storeAfterSteps, List.map_append, storeAfter, Operation.runAll, List.foldl_append]
  rfl

/-- What the empty store has, and every step keeps in well-formed stores, ordinary runs keep. -/
theorem storeAfterSteps_induct {motive : Store → Prop} (hempty : motive .empty)
    (hstep : ∀ (store : Store) (step : PipelineStep), store.WellFormed → motive store →
      motive (step.operation.apply store))
    (steps : List PipelineStep) : motive (storeAfterSteps steps) := by
  induction steps using List.reverseRecOn with
  | nil => exact hempty
  | append_singleton earlier step ih =>
    rw [storeAfterSteps_concat]
    exact hstep _ step (wellFormed_storeAfter _) ih

/-- A run that ends with a link settles what its other steps leave open in the project. -/
theorem storeAfterSteps_link (earlier : List PipelineStep) (projectId : Int) (batchSize : Nat) :
    storeAfterSteps (earlier ++ [.link projectId batchSize]) =
      Resolution.linked (storeAfterSteps earlier) projectId batchSize := by
  rw [storeAfterSteps_concat]
  exact apply_link (wellFormed_storeAfter _) projectId batchSize

theorem storeAfter_append (earlier later : List Operation) :
    storeAfter (earlier ++ later) = Operation.runAll later (storeAfter earlier) :=
  List.foldl_append

end SymbolGraph
