import SymbolGraph.Proofs.Ingest.Contents
import SymbolGraph.Proofs.Ingest.Correspondence
import SymbolGraph.Proofs.Pipeline.Operation

/-!
# A file is stored as it was read

An accepted file of a stored project is stored faithfully (`file_run_storeAfter`): a map from the
tags of its declarations to ids carries the tree that was read into the symbols of the file. Cut off
are the declarations that meet a row of another kind at their turn, with all that is declared in
them. The imports and the calls of the file are stored once each, the calls from the rows that their
tags are mapped to, and nothing else changes (`IsFaithful`).
-/

set_option autoImplicit false
set_option relaxedAutoImplicit false

namespace SymbolGraph

namespace Ingest

/-- A store becomes another one as a file is stored, by a map from tags to ids of symbols. -/
structure IsFaithful (file : Store.FileScope) (read : Extraction) (before later : Store)
    (stats : FileStats) (idOf : Nat → Option Int) : Prop where
  /-- The tags of the declarations are mapped that did not conflict at their turns and are within
  none that did. -/
  mapped : ∀ tag, (idOf tag).isSome = true ↔
    ∃ declaration ∈ read.declarations, declaration.tag = tag ∧
      ∀ around, IsWithin read.declarations declaration around →
        ¬ Conflicts file idOf (turn file read.declarations before around) around
  /-- A mapped declaration has a row of its kind and its name, below the row of its parent. -/
  row : ∀ declaration ∈ read.declarations, ∀ id, idOf declaration.tag = some id →
    ∃ row ∈ later.symbols, row.id = id ∧ row.StandsFor file idOf declaration ∧
      row.kind = declaration.kind
  /-- A row has the signature and the span of the last declaration that is mapped to it. -/
  details : ∀ row ∈ later.symbols, ∀ declaration,
    lastDeclared idOf read.declarations row.id = some declaration →
      row.signature = declaration.signature ∧ row.span = declaration.span
  /-- Rows that no declaration is mapped to are those from before. -/
  others : ∀ row : Symbol, lastDeclared idOf read.declarations row.id = none →
    (row ∈ later.symbols ↔ row ∈ before.symbols)
  projects : later.projects = before.projects
  /-- Imports take over what their last mention says, and those that are new are added. -/
  imports : ∃ added, later.imports = before.imports.map (refreshed file read.imports) ++ added ∧
    added.map Import.place = newKeys (hasImport file before) (read.imports.map (·.place)) ∧
    ∀ entry ∈ added, IsNewImport file read.imports entry
  /-- Calls from mapped symbols that are new are added, and counted. -/
  calls : ∃ added, later.calls = before.calls ++ added ∧
    added.map Call.place = newKeys (hasCall file before) (read.calls.filterMap (·.place? idOf)) ∧
    (∀ call ∈ added, IsNewCall file call) ∧ stats.calls = added.length
  callsDropped : stats.callsDropped =
    read.calls.countP fun mention ↦ (idOf mention.caller).isNone

/-- The tags that have ids are those of the declarations that did not conflict and are within none
that did. -/
theorem isSome_resolve?_iff_exists {file : Store.FileScope} {declared : List Declaration}
    {store later : Store} {last : PersistState} (hready : IsReady file .start store)
    {fits : String → SymbolKind → SymbolKind → Prop} {moduleName : String}
    (hnested : Extraction.Nested fits moduleName declared)
    (hrun : persistFrom (storeSink file) declared .start store = (.ok last, later)) (tag : Nat) :
    (last.scope.resolve? tag).isSome = true ↔ ∃ declaration ∈ declared, declaration.tag = tag ∧
      ∀ around, IsWithin declared declaration around →
        ¬ Conflicts file last.scope.resolve? (turn file declared store around) around := by
  constructor
  · intro hsome
    by_cases hdeclared : ∃ declaration ∈ declared, declaration.tag = tag
    · obtain ⟨declaration, hdeclaration, rfl⟩ := hdeclared
      exact ⟨declaration, hdeclaration, rfl,
        (isSome_resolve?_iff_forall_within hready hnested hrun hdeclaration).mp hsome⟩
    · have hnone : last.scope.resolve? tag = none :=
        resolve?_of_persistFrom hrun fun declaration hdeclaration hsame ↦
          hdeclared ⟨declaration, hdeclaration, hsame.symm⟩
      rw [hnone] at hsome
      cases hsome
  · rintro ⟨declaration, hdeclaration, rfl, hall⟩
    exact (isSome_resolve?_iff_forall_within hready hnested hrun hdeclaration).mpr hall

/-- In a stored project, what was read from a file is stored faithfully. -/
theorem exists_isFaithful {file : Store.FileScope} {read : Extraction} {before : Store}
    (hbefore : before.WellFormed) (hproject : before.hasProject file.projectId = true)
    {fits : String → SymbolKind → SymbolKind → Prop} {moduleName : String}
    (hnested : Extraction.Nested fits moduleName read.declarations) :
    ∃ stats later idOf, (extraction file read).run before = .ok (stats, later) ∧
      IsFaithful file read before later stats idOf := by
  have hready := isReady_start hbefore hproject
  obtain ⟨persisted, declared, hpersisted⟩ :=
    exists_persistFrom hproject read.declarations hready.scopeStored
  have hdeclared := declarations_run_eq_ok_iff.mpr hpersisted
  have hlast := isReady_of_persistFrom hready hpersisted
  have hsame := preserves_declarations Store.isPreorder_sameOtherTables
    (Store.sameOtherTables_upsertSymbol file) _ _ _ _ hdeclared
  obtain ⟨newImports, himports, himportPlaces, hnewImports⟩ :=
    imports_run_eq hlast.hasProject read.imports
  -- the calls find the same projects and symbols after the imports
  let imported : Store :=
    { declared with imports := declared.imports.map (refreshed file read.imports) ++ newImports }
  have hknown : imported.hasProject file.projectId = true := hlast.hasProject
  have hcallers : ∀ tag callerId, persisted.scope.resolve? tag = some callerId →
      imported.hasSymbol callerId = true := fun _ _ hfound ↦ hlast.scopeStored.hasSymbol hfound
  obtain ⟨newCalls, hcalls, hcallPlaces, hnewCalls⟩ := calls_run_eq hknown hcallers read.calls
  refine ⟨_, _, persisted.scope.resolve?, Store.run_bind_eq_ok_iff.mpr ⟨_, _, hdeclared,
    Store.run_bind_eq_ok_iff.mpr ⟨_, _, himports,
      Store.run_bind_eq_ok_iff.mpr ⟨_, _, hcalls, rfl⟩⟩⟩, ?_⟩
  have hascending := hnested.pairwise_tag_lt
  have hhasImport : hasImport file declared = hasImport file before := by
    unfold hasImport
    rw [hsame.imports]
  have hhasCall : hasCall file imported = hasCall file before := by
    unfold hasCall
    rw [show imported.calls = before.calls from hsame.calls]
  exact
    { mapped := isSome_resolve?_iff_exists hready hnested hpersisted
      row := fun declaration hdeclaration id hid ↦
        exists_row_of_resolve? hready hnested hpersisted hdeclaration hid
      details := fun row hrow declaration hlastDeclared ↦
        details_of_lastDeclared hready hascending hpersisted hrow hlastDeclared
      others := fun row hnone ↦ mem_symbols_iff_of_not_mapped hready hascending hpersisted
        (lastDeclared_eq_none_iff.mp hnone)
      projects := hsame.projects
      imports := ⟨newImports, by rw [← hsame.imports], hhasImport ▸ himportPlaces, hnewImports⟩
      calls := ⟨newCalls, by rw [← hsame.calls], hhasCall ▸ hcallPlaces, hnewCalls, rfl⟩
      callsDropped := rfl }

end Ingest

/-- In every store that operations reach, every file that is accepted is stored faithfully in every
project that is stored. -/
theorem file_run_storeAfter (operations : List Operation) (projectId : Int) (path source : String)
    {read : Extraction} (hread : SourceFile.extract path source = .ok read)
    (hproject : (storeAfter operations).hasProject projectId = true) :
    ∃ stats later idOf,
      (Ingest.file projectId path source).run (storeAfter operations) = .ok (stats, later) ∧
      Ingest.IsFaithful ⟨projectId, path⟩ read (storeAfter operations) later stats idOf := by
  rw [Ingest.file_run_of_read hread]
  exact Ingest.exists_isFaithful (wellFormed_storeAfter operations) hproject
    (SourceFile.nested_extract hread)

/-- A project, and nothing else yet. -/
def emptyProject : List Operation :=
  [.ensureProject "demo" "file:///demo"]

/-- A function, a class of the same name, and the function once more. -/
def redefinedName : String :=
  "def f():\n pass\n\nclass f:\n def g(self):\n  pass\n\ndef f():\n f()\n"

/-- The class meets the function in its place and is cut off with its method, and the function's row
carries what the second function says. -/
theorem file_run_redefinedName : ∃ read stats later idOf,
    SourceFile.extract "app.py" redefinedName = .ok read ∧
      (storeAfter emptyProject).hasProject 1 = true ∧
      (Ingest.file 1 "app.py" redefinedName).run (storeAfter emptyProject) = .ok (stats, later) ∧
      Ingest.IsFaithful ⟨1, "app.py"⟩ read (storeAfter emptyProject) later stats idOf ∧
      later.symbols =
        [⟨1, 1, none, "app.py", "app", .module, none, ⟨1, 9, 0, 61⟩, 0⟩,
          ⟨2, 1, some 1, "app.py", "f", .function, some "()", ⟨8, 9, 47, 60⟩, 1⟩] := by
  have hproject : (storeAfter emptyProject).hasProject 1 = true := by decide
  have hsymbols : ((Ingest.file 1 "app.py" redefinedName).run
      (storeAfter emptyProject)).toOption.map (·.2.symbols) =
        some [⟨1, 1, none, "app.py", "app", .module, none, ⟨1, 9, 0, 61⟩, 0⟩,
          ⟨2, 1, some 1, "app.py", "f", .function, some "()", ⟨8, 9, 47, 60⟩, 1⟩] := by
    decide +kernel
  cases hread : SourceFile.extract "app.py" redefinedName with
  | error failure =>
    rw [Ingest.file_run_of_unreadable hread] at hsymbols
    cases hsymbols
  | ok read =>
    obtain ⟨stats, later, idOf, hrun, hfaithful⟩ :=
      file_run_storeAfter emptyProject 1 "app.py" redefinedName hread hproject
    rw [hrun] at hsymbols
    exact ⟨read, stats, later, idOf, rfl, hproject, hrun, hfaithful, Option.some.inj hsymbols⟩

end SymbolGraph
