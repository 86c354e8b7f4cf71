import SymbolGraph.Proofs.Ingest.Scope
import SymbolGraph.Proofs.Pipeline.Soundness
import SymbolGraph.Proofs.Store.Project

/-!
# Projects in one store do not interfere

Any number of projects share the tables of a store. In every store that ordinary runs reach, calls
come from symbols of their own file (`Store.HoldsCaller`), and what is resolved is resolved inside
its project (`isPartitioned_storeAfterSteps`). So a step that acts for one project leaves the rows
of the others as they are, and every answer about them (`keepsProject_apply`), and what linking a
project does to its rows depends on these rows alone (`contents_linked`).
-/

set_option autoImplicit false
set_option relaxedAutoImplicit false

namespace SymbolGraph

open Store (Ledger)

/-! ### Calls come from their own files -/

/-- The call is made in the symbol, by the file that declares it. -/
def Call.IsFrom (call : Call) (source : Symbol) : Prop :=
  call.file = source.file ∧ call.callerId = source.id

namespace Store

/-- The call comes from a stored symbol of its file. -/
def HoldsCaller (store : Store) (call : Call) : Prop :=
  ∃ source ∈ store.symbols, call.IsFrom source

variable {before after : Store}

theorem HoldsCaller.grows (hgrows : before.Grows after) {call : Call}
    (hholds : before.HoldsCaller call) : after.HoldsCaller call := by
  obtain ⟨source, hsource, hfile, hid⟩ := hholds
  obtain ⟨kept, hkept, hpersists⟩ := hgrows.symbols.exists_mem hsource
  refine ⟨kept, hkept, ?_, hid.trans hpersists.id.symm⟩
  rw [hfile, Symbol.file, Symbol.file, hpersists.projectId, hpersists.filePath]

theorem HoldsCaller.ownsSymbol {store : Store} {call : Call} (hholds : store.HoldsCaller call) :
    store.OwnsSymbol call.projectId call.callerId := by
  obtain ⟨source, hsource, hfile, hid⟩ := hholds
  exact ⟨source, hsource, hid.symm, (congrArg FileScope.projectId hfile).symm⟩

/-- The store grows, and if calls come from symbols of their files before, they do so after. -/
structure KeepsCallers (before after : Store) : Prop where
  grows : before.Grows after
  callers : (∀ call ∈ before.calls, before.HoldsCaller call) →
    ∀ call ∈ after.calls, after.HoldsCaller call

/-- Where no call is added, calls go on coming from symbols of their files. -/
theorem KeepsCallers.of_calls_eq (hgrows : before.Grows after)
    (hcalls : after.calls = before.calls) : before.KeepsCallers after where
  grows := hgrows
  callers := fun hcallers call hcall ↦ (hcallers call (hcalls ▸ hcall)).grows hgrows

theorem isPreorder_keepsCallers : IsPreorder KeepsCallers where
  refl := fun store ↦ ⟨.refl store, id⟩
  trans := fun first second third hfirst hsecond ↦
    ⟨hfirst.grows.trans first second third hsecond.grows,
      fun hcallers ↦ hsecond.callers (hfirst.callers hcallers)⟩

theorem keptByWritesTo_keepsCallers (file : FileScope) : KeptByWritesTo file KeepsCallers where
  toIsPreorder := isPreorder_keepsCallers
  upsertSymbol := by
    intro parentId declaration store id later hrun
    have hgrows := grows_upsertSymbol file parentId declaration store id later hrun
    rcases upsertSymbol_cases hrun with ⟨_, _, _, _, _, rfl⟩ | ⟨_, _, _, _, rfl⟩
    · exact .of_calls_eq hgrows rfl
    · exact .of_calls_eq hgrows rfl
  upsertImport := by
    intro mention store value later hrun
    have hgrows := grows_upsertImport file mention store value later hrun
    rcases upsertImport_cases hrun with ⟨_, rfl⟩ | ⟨_, _, rfl⟩
    · exact .of_calls_eq hgrows rfl
    · exact .of_calls_eq hgrows rfl
  insertCall := by
    rintro store later callerId callee line isNew ⟨kind, source, hmem, hid, hproject, hfile, -⟩ hrun
    have hgrows := grows_insertCall file callerId callee line store isNew later hrun
    rcases insertCall_cases hrun with ⟨_, _, rfl⟩ | ⟨_, _, _, _, rfl⟩
    · exact .of_calls_eq hgrows rfl
    · refine ⟨hgrows, fun hcallers ↦ forall_mem_concat (fun call hcall ↦ ?_) ?_⟩
      · exact (hcallers call hcall).grows hgrows
      · refine ⟨source, hmem, ?_, hid.symm⟩
        rw [Symbol.file, hproject, hfile]
        rfl

theorem keepsCallers_ensureProject (name url : String) :
    Preserves KeepsCallers (ensureProject name url) := by
  intro store project later hrun
  have hgrows := grows_ensureProject name url store project later hrun
  rcases ensureProject_cases hrun with ⟨-, -, rfl⟩ | ⟨-, -, rfl⟩
  · exact .of_calls_eq hgrows rfl
  · exact .of_calls_eq hgrows rfl

end Store

namespace Resolution

variable {store : Store}

/-- Linking leaves the callers of calls as they are. -/
theorem keepsCallers_linked (hstore : store.WellFormed) (projectId : Int) (size : Nat) :
    store.KeepsCallers (linked store projectId size) := by
  have hgrows := relates_linked Store.keptByWrites_grows hstore projectId size
  refine ⟨hgrows, fun hcallers settled hsettled ↦ ?_⟩
  obtain ⟨call, hcall, rfl⟩ := List.mem_map.mp hsettled
  have hholds := (hcallers call hcall).grows hgrows
  rcases Ledger.calls.settleWith_cases _ call with hsame | ⟨-, symbolId, -, hsettles⟩
  · rw [hsame]
    exact hholds
  · rw [hsettles]
    exact hholds

end Resolution

theorem keepsCallers_apply (step : PipelineStep) {store : Store} (hstore : store.WellFormed) :
    store.KeepsCallers (step.operation.apply store) := by
  cases step with
  | ensureProject name url =>
    exact (Store.keepsCallers_ensureProject name url).attempt Store.isPreorder_keepsCallers store
  | ingestFile projectId path source =>
    have hfile := Ingest.preserves_file_of_keptByWritesTo
      (Store.keptByWritesTo_keepsCallers ⟨projectId, path⟩) source
    exact hfile.attempt Store.isPreorder_keepsCallers store
  | link projectId batchSize =>
    rw [PipelineStep.operation, apply_link hstore]
    exact Resolution.keepsCallers_linked hstore projectId batchSize

/-- What is soundly resolved is resolved inside its project. -/
theorem Store.ResolutionSound.isPartitioned {store : Store} (hsound : store.ResolutionSound)
    (hcallers : ∀ call ∈ store.calls, store.OwnsSymbol call.projectId call.callerId) :
    store.IsPartitioned where
  callers := hcallers
  imports := by
    intro entry hentry symbolId htarget
    obtain ⟨symbol, hsymbol, hid, hproject, -⟩ := (hsound.imports entry hentry).target _ htarget
    exact ⟨symbol, hsymbol, hid, hproject⟩
  calls := by
    intro call hcall symbolId htarget
    obtain ⟨symbol, hsymbol, hid, hproject, -⟩ := hsound.calls call hcall symbolId htarget
    exact ⟨symbol, hsymbol, hid, hproject⟩

/-- In every store that ordinary runs reach, what is resolved is resolved soundly, and calls come
from symbols of their files. -/
theorem sound_and_holdsCaller_storeAfterSteps (steps : List PipelineStep) :
    (storeAfterSteps steps).ResolutionSound ∧
      ∀ call ∈ (storeAfterSteps steps).calls, (storeAfterSteps steps).HoldsCaller call := by
  refine @storeAfterSteps_induct (fun store ↦ store.ResolutionSound ∧
    ∀ call ∈ store.calls, store.HoldsCaller call) ⟨Store.resolutionSound_empty, ?_⟩ ?_ steps
  · intro call hcall
    cases hcall
  · rintro store step hstore ⟨hsound, hcallers⟩
    exact ⟨resolutionSound_apply step hstore hsound,
      (keepsCallers_apply step hstore).callers hcallers⟩

/-- In every store that ordinary runs over any projects reach, no row leads from one project into
another. -/
theorem isPartitioned_storeAfterSteps (steps : List PipelineStep) :
    (storeAfterSteps steps).IsPartitioned := by
  obtain ⟨hsound, hcallers⟩ := sound_and_holdsCaller_storeAfterSteps steps
  exact hsound.isPartitioned fun call hcall ↦ (hcallers call hcall).ownsSymbol

/-! ### Steps for other projects -/

/-- The step acts for the project: it finds or adds it, stores one of its files, or links it. -/
def PipelineStep.ActsFor (store : Store) (projectId : Int) : PipelineStep → Prop
  | ensureProject name url =>
    ∃ project, (Store.attempt (Store.ensureProject name url) store).1 = .ok project ∧
      project.id = projectId
  | ingestFile ownId _ _ => ownId = projectId
  | link ownId _ => ownId = projectId

namespace Store

/-- The rows of the project are the same: its own and those of its symbols, imports and calls. -/
structure KeepsProject (projectId : Int) (before after : Store) : Prop where
  project : (after.projects.filter fun project ↦ project.id == projectId) =
    before.projects.filter fun project ↦ project.id == projectId
  contents : after.contents projectId = before.contents projectId

variable {projectId : Int}

theorem isPreorder_keepsProject (projectId : Int) : IsPreorder (KeepsProject projectId) where
  refl := fun _ ↦ ⟨rfl, rfl⟩
  trans := fun _ _ _ hfirst hsecond ↦
    ⟨hsecond.project.trans hfirst.project, hsecond.contents.trans hfirst.contents⟩

/-- Writing to a file of another project keeps the rows of the project. -/
theorem keptByWritesTo_keepsProject {file : FileScope} (hother : file.projectId ≠ projectId) :
    KeptByWritesTo file (KeepsProject projectId) where
  toIsPreorder := isPreorder_keepsProject projectId
  upsertSymbol := by
    intro parentId declaration store id later hrun
    rcases upsertSymbol_cases hrun with ⟨_, _, _, _, _, rfl⟩ | ⟨_, _, _, _, rfl⟩
    · refine ⟨rfl, contents_congr ?_ rfl rfl⟩
      refine filter_amendWhere_of_disjoint ?_ ?_ store.symbols
      · exact fun symbol ↦ rfl
      · intro symbol hholds
        have hkey := FileScope.holdsSymbol_eq_true_iff.mp hholds
        rw [show symbol.projectId = file.projectId from congrArg Prod.fst hkey]
        exact beq_false_of_ne hother
    · refine ⟨rfl, contents_congr ?_ rfl rfl⟩
      refine filter_concat_of_not_mem ?_ store.symbols
      exact beq_false_of_ne hother
  upsertImport := by
    intro mention store value later hrun
    rcases upsertImport_cases hrun with ⟨_, rfl⟩ | ⟨_, _, rfl⟩
    · refine ⟨rfl, contents_congr rfl ?_ rfl⟩
      refine filter_amendWhere_of_disjoint ?_ ?_ store.imports
      · exact fun entry ↦ rfl
      · intro entry hholds
        have hkey := FileScope.holdsImport_eq_true_iff.mp hholds
        rw [show entry.projectId = file.projectId from congrArg Prod.fst hkey]
        exact beq_false_of_ne hother
    · refine ⟨rfl, contents_congr rfl ?_ rfl⟩
      refine filter_concat_of_not_mem ?_ store.imports
      exact beq_false_of_ne hother
  insertCall := by
    intro store later callerId callee line isNew _ hrun
    rcases insertCall_cases hrun with ⟨_, _, rfl⟩ | ⟨_, _, _, _, rfl⟩
    · exact ⟨rfl, rfl⟩
    · refine ⟨rfl, contents_congr rfl rfl ?_⟩
      refine filter_concat_of_not_mem ?_ store.calls
      exact beq_false_of_ne hother

/-- Adding another project keeps the rows of the project. -/
theorem keepsProject_ensureProject {name url : String} {store later : Store} {project : Project}
    (hother : project.id ≠ projectId)
    (hrun : (ensureProject name url).run store = .ok (project, later)) :
    KeepsProject projectId store later := by
  rcases ensureProject_cases hrun with ⟨-, -, rfl⟩ | ⟨-, -, rfl⟩
  · exact ⟨rfl, rfl⟩
  · refine ⟨?_, rfl⟩
    refine filter_concat_of_not_mem ?_ store.projects
    exact beq_false_of_ne hother

namespace Ledger

variable {ρ : Type} {ledger : Ledger ρ} {target : ρ → Option Int}

/-- Settling does not move rows to another project. -/
theorem filter_map_settleWith (rows : List ρ) :
    (rows.map (ledger.settleWith target)).filter (fun row ↦ ledger.projectId row == projectId) =
      (rows.filter fun row ↦ ledger.projectId row == projectId).map (ledger.settleWith target) := by
  rw [List.filter_map]
  refine congrArg (List.map _) (List.filter_congr fun row _ ↦ ?_)
  rw [Function.comp_apply, projectId_settleWith]

/-- A project for whose rows nothing is found keeps its rows. -/
theorem filter_map_settleWith_of_none
    (hnone : ∀ row, ledger.projectId row = projectId → target row = none) (rows : List ρ) :
    (rows.map (ledger.settleWith target)).filter (fun row ↦ ledger.projectId row == projectId) =
      rows.filter fun row ↦ ledger.projectId row == projectId := by
  rw [filter_map_settleWith]
  refine (List.map_congr_left fun row hrow ↦ ?_).trans (List.map_id _)
  exact settleWith_of_none (hnone row (beq_iff_eq.mp (List.mem_filter.mp hrow).2))

end Ledger

end Store

namespace Resolution

variable {store : Store} {projectId : Int}

theorem within_of_ne {ρ : Type} {ledger : Ledger ρ} {other : Int} {size : Nat}
    {symbolOf : ρ → Option Int} {row : ρ} (hother : other ≠ projectId)
    (hrow : ledger.projectId row = projectId) : within ledger other size symbolOf row = none :=
  if_neg fun hboth ↦ hother (hboth.1.symm.trans hrow)

/-- Linking another project keeps the rows of the project. -/
theorem keepsProject_linked {other : Int} (hother : other ≠ projectId) (size : Nat) :
    Store.KeepsProject projectId store (linked store other size) where
  project := rfl
  contents := Store.contents_congr rfl
    (@Ledger.filter_map_settleWith_of_none projectId _ .imports _
      (fun _ hrow ↦ within_of_ne hother hrow) store.imports)
    (@Ledger.filter_map_settleWith_of_none projectId _ .calls _
      (fun _ hrow ↦ within_of_ne hother hrow) store.calls)

end Resolution

/-- A step that acts for another project keeps the rows of the project. -/
theorem keepsProject_apply {store : Store} (hstore : store.WellFormed) {step : PipelineStep}
    {ownId projectId : Int} (hacts : step.ActsFor store ownId) (hother : ownId ≠ projectId) :
    Store.KeepsProject projectId store (step.operation.apply store) := by
  have hpreorder := Store.isPreorder_keepsProject projectId
  cases step with
  | ensureProject name url =>
    obtain ⟨project, hproject, rfl⟩ := hacts
    change Store.KeepsProject projectId store
      (Store.attempt (Store.ensureProject name url) store).2
    cases hrun : (Store.ensureProject name url).run store with
    | error failure =>
      rw [Store.attempt, hrun]
      exact hpreorder.refl store
    | ok result =>
      rw [Store.attempt, hrun] at hproject ⊢
      obtain rfl := Except.ok.inj hproject
      exact Store.keepsProject_ensureProject hother hrun
  | ingestFile fileProjectId path source =>
    obtain rfl : fileProjectId = ownId := hacts
    have hfile := Ingest.preserves_file_of_keptByWritesTo
      (@Store.keptByWritesTo_keepsProject projectId ⟨fileProjectId, path⟩ hother) source
    exact hfile.attempt hpreorder store
  | link linkedId batchSize =>
    obtain rfl : linkedId = ownId := hacts
    rw [PipelineStep.operation, apply_link hstore]
    exact Resolution.keepsProject_linked hother batchSize

/-! ### Linking reads one project -/

namespace Resolution

variable {store : Store} (projectId : Int)

theorem importSymbol_contents (store : Store) :
    importSymbol (store.contents projectId) projectId = importSymbol store projectId := by
  funext entry
  unfold importSymbol
  rw [Store.symbolsNamed_contents]

variable {projectId}

/-- What a qualifier was imported as is a symbol of the project. -/
theorem ownsSymbol_of_importedQualifier (hpartitioned : store.IsPartitioned)
    {filePath qualifier : String} {targetId : Int}
    (hfound : importedQualifier (store.fileView projectId filePath) qualifier = some targetId) :
    store.OwnsSymbol projectId targetId := by
  have hresolved : ∃ name,
      (store.fileView projectId filePath).resolvedImport name = some targetId := by
    rcases Option.or_eq_some_iff.mp hfound with hwhole | ⟨-, hfirst⟩
    · exact ⟨_, hwhole⟩
    · exact ⟨_, hfirst⟩
  obtain ⟨name, hname⟩ := hresolved
  obtain ⟨entry, hentry, -, -, htarget⟩ := FileView.exists_import_of_resolvedImport_eq_some hname
  obtain ⟨hmem, rfl, -⟩ := Store.mem_imports_fileView_iff.mp hentry
  exact hpartitioned.imports entry hmem targetId htarget

/-- What a call reaches is looked up in the contents of its project. -/
theorem callSymbol_contents (hstore : store.WellFormed) (hpartitioned : store.IsPartitioned)
    (call : Call) :
    callSymbol (store.contents projectId) projectId call = callSymbol store projectId call := by
  unfold callSymbol callTarget directLookup
  dsimp only
  rw [Store.fileView_contents]
  cases calleeShape call.callee with
  | bare name => rfl
  | onSelf member => rfl
  | dotted qualifier member =>
    dsimp only
    cases himported : importedQualifier (store.fileView projectId call.filePath) qualifier with
    | none => rfl
    | some targetId =>
      have howns := ownsSymbol_of_importedQualifier hpartitioned himported
      unfold memberTarget
      dsimp only
      rw [Store.symbol?_contents hstore howns]
      simp only [Store.fileView_contents]

theorem contents_linkedImports (store : Store) (projectId : Int) (size : Nat) :
    (linkedImports store projectId size).contents projectId =
      linkedImports (store.contents projectId) projectId size := by
  unfold linkedImports
  rw [importSymbol_contents]
  have himports := @Ledger.filter_map_settleWith projectId _ .imports
    (within .imports projectId size (importSymbol store projectId)) store.imports
  exact congrArg (fun entries ↦ { store.contents projectId with imports := entries }) himports

theorem contents_linkedCalls (hstore : store.WellFormed) (hpartitioned : store.IsPartitioned)
    (projectId : Int) (size : Nat) : (linkedCalls store projectId size).contents projectId =
      linkedCalls (store.contents projectId) projectId size := by
  unfold linkedCalls
  rw [funext (callSymbol_contents hstore hpartitioned)]
  have hcalls := @Ledger.filter_map_settleWith projectId _ .calls
    (within .calls projectId size (callSymbol store projectId)) store.calls
  exact congrArg (fun calls ↦ { store.contents projectId with calls := calls }) hcalls

/-- Linking a project links its contents. -/
theorem contents_linked (hstore : store.WellFormed) (hsound : store.ResolutionSound)
    (hpartitioned : store.IsPartitioned) (projectId : Int) (size : Nat) :
    (linked store projectId size).contents projectId =
      linked (store.contents projectId) projectId size := by
  have hgrows := relates_linkedImports Store.keptByWrites_grows hstore projectId size
  have hmiddle := resolutionSound_linkedImports hsound hgrows
  have hcallers : ∀ call ∈ (linkedImports store projectId size).calls,
      (linkedImports store projectId size).OwnsSymbol call.projectId call.callerId :=
    fun call hcall ↦ (hpartitioned.callers call hcall).grows hgrows
  unfold linked
  rw [contents_linkedCalls (wellFormed_linkedImports hstore projectId size)
    (hmiddle.isPartitioned hcallers), contents_linkedImports]

end Resolution

/-! ### All steps -/

/-- A step for one project leaves the others alone, and linking a project depends on its own
symbols, imports and calls. -/
structure Store.IsolatesProjects (store : Store) : Prop where
  /-- A step that acts for one project keeps the rows of another one, and every answer about it. -/
  apart : ∀ (step : PipelineStep) ownId projectId, step.ActsFor store ownId → ownId ≠ projectId →
    KeepsProject projectId store (step.operation.apply store) ∧
    AnswersAlike projectId store (step.operation.apply store)
  /-- Another store with the same symbols, imports and calls of a project has the same ones after
  the project is linked. -/
  link : ∀ (steps : List PipelineStep) projectId batchSize,
    store.contents projectId = (storeAfterSteps steps).contents projectId →
    ((Operation.link projectId batchSize).apply store).contents projectId =
      ((Operation.link projectId batchSize).apply (storeAfterSteps steps)).contents projectId

/-- In every store that ordinary runs over any projects reach, ensuring, ingesting for and linking
one project leave every row of every other project and every answer about it as they were, and what
linking makes of a project's rows depends on these rows alone. -/
theorem isolatesProjects_storeAfterSteps (steps : List PipelineStep) :
    (storeAfterSteps steps).IsolatesProjects where
  apart := by
    intro step ownId projectId hacts hother
    have hstore : (storeAfterSteps steps).WellFormed := wellFormed_storeAfter _
    have hkeeps := keepsProject_apply hstore hacts hother
    refine ⟨hkeeps, ?_⟩
    rw [← storeAfterSteps_concat] at hkeeps ⊢
    exact .of_contents_eq hstore (wellFormed_storeAfter _) (isPartitioned_storeAfterSteps steps)
      (isPartitioned_storeAfterSteps _) hkeeps.contents.symm
  link := by
    intro others projectId batchSize hsame
    have hlink : ∀ run : List PipelineStep,
        ((Operation.link projectId batchSize).apply (storeAfterSteps run)).contents projectId =
          Resolution.linked ((storeAfterSteps run).contents projectId) projectId batchSize := by
      intro run
      have hstore : (storeAfterSteps run).WellFormed := wellFormed_storeAfter _
      rw [apply_link hstore]
      exact Resolution.contents_linked hstore (sound_and_holdsCaller_storeAfterSteps run).1
        (isPartitioned_storeAfterSteps run) projectId batchSize
    rw [hlink, hlink, hsame]

end SymbolGraph
