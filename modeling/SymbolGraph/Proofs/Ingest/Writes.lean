import SymbolGraph.Ingest.File
import SymbolGraph.Proofs.Identity
import SymbolGraph.Proofs.Store.Change

/-!
# Storing a file is a sequence of writes

Storing what was read from a file offers its symbols to the store, then its imports, then its calls.
Whatever the writes to the rows of a file preserve, storing the file preserves (`preserves_file`),
whether declarations are accepted, conflict with a row of another kind, or are passed over.
-/

set_option autoImplicit false
set_option relaxedAutoImplicit false

namespace SymbolGraph

namespace Ingest

open Store (Preserves KeptByFileWrites)

theorem declarations_run_eq_ok_iff {file : Store.FileScope} {declared : List Declaration}
    {store later : Store} {state : PersistState} :
    (declarations file declared).run store = .ok (state, later) ↔
      persistFrom (storeSink file) declared .start store = (.ok state, later) := by
  unfold declarations persist
  rw [StateT.run]
  rcases persistFrom (storeSink file) declared .start store with ⟨answer, last⟩
  cases answer with
  | error failure => simp
  | ok value => simp

/-- Storing a file that can be read is storing what was read. -/
theorem file_run_of_read {path source : String} {read : Extraction}
    (hread : SourceFile.extract path source = .ok read) (projectId : Int) (store : Store) :
    (file projectId path source).run store = (extraction ⟨projectId, path⟩ read).run store := by
  unfold file
  rw [hread]
  rfl

/-- A file that cannot be read is not stored. -/
theorem file_run_of_unreadable {path source : String} {failure : GraphError}
    (hread : SourceFile.extract path source = .error failure) (projectId : Int) (store : Store) :
    (file projectId path source).run store = .error failure := by
  unfold file
  rw [hread]
  rfl

/-- A file is stored when it can be read and what was read is stored. -/
theorem file_run_eq_ok_iff {projectId : Int} {path source : String} {store : Store}
    {result : FileStats × Store} : (file projectId path source).run store = .ok result ↔
      ∃ read, SourceFile.extract path source = .ok read ∧
        (extraction ⟨projectId, path⟩ read).run store = .ok result := by
  cases hread : SourceFile.extract path source with
  | error failure => simp [file_run_of_unreadable hread]
  | ok read => simp [file_run_of_read hread]

variable {relation : Store → Store → Prop}

theorem preserves_declarations (hpreorder : Store.IsPreorder relation) {file : Store.FileScope}
    (hupsert : ∀ parentId declaration,
      Preserves relation (Store.upsertSymbol file parentId declaration))
    (declared : List Declaration) : Preserves relation (declarations file declared) := by
  intro store state later hrun
  have hsink : ∀ parentId declaration world,
      relation world (storeSink file parentId declaration world).2 := by
    intro parentId declaration world
    exact (hupsert parentId declaration).attempt hpreorder world
  have hoffered := relates_persistFrom hpreorder.refl hpreorder.trans hsink declared .start store
  rwa [declarations_run_eq_ok_iff.mp hrun] at hoffered

theorem preserves_imports (hpreorder : Store.IsPreorder relation) {file : Store.FileScope}
    (hupsert : ∀ mention, Preserves relation (Store.upsertImport file mention))
    (mentions : List ImportMention) : Preserves relation (imports file mentions) := by
  induction mentions with
  | nil => exact .pure hpreorder ()
  | cons mention rest ih => exact .bind hpreorder (hupsert mention) fun _ ↦ ih

theorem preserves_calls (hpreorder : Store.IsPreorder relation) {file : Store.FileScope}
    (hinsert : ∀ callerId callee line,
      Preserves relation (Store.insertCall file callerId callee line))
    (scope : IdentityScope) (mentions : List CallMention) :
    Preserves relation (calls file scope mentions) := by
  induction mentions with
  | nil => exact .pure hpreorder _
  | cons mention rest ih =>
    unfold calls
    split
    · exact .bind hpreorder ih fun counts ↦ .pure hpreorder _
    · refine .bind hpreorder (hinsert _ _ _) fun isNew ↦ ?_
      exact .bind hpreorder ih fun counts ↦ .pure hpreorder _

/-- Storing a file preserves what the writes to its rows preserve. -/
theorem preserves_extraction (hrelation : KeptByFileWrites relation) (file : Store.FileScope)
    (read : Extraction) : Preserves relation (extraction file read) := by
  have hpreorder := hrelation.toIsPreorder
  have hdeclared := preserves_declarations hpreorder (hrelation.upsertSymbol file) read.declarations
  have himports := preserves_imports hpreorder (hrelation.upsertImport file) read.imports
  have hcalls := preserves_calls hpreorder (hrelation.insertCall file)
  refine .bind hpreorder hdeclared fun persisted ↦ .bind hpreorder himports fun _ ↦ ?_
  exact .bind hpreorder (hcalls persisted.scope read.calls) fun counts ↦ .pure hpreorder _

theorem preserves_file (hrelation : KeptByFileWrites relation) (projectId : Int)
    (path source : String) : Preserves relation (file projectId path source) := by
  intro store stats later hrun
  obtain ⟨read, -, hstored⟩ := file_run_eq_ok_iff.mp hrun
  exact preserves_extraction hrelation ⟨projectId, path⟩ read store stats later hstored

end Ingest

end SymbolGraph
