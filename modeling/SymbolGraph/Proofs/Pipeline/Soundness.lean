import SymbolGraph.Proofs.Pipeline.Operation

/-!
# Resolution is sound

In every store that ordinary runs reach, what is resolved is resolved to the right thing
(`resolutionSound_storeAfterSteps`): an import to a symbol of its project and its name in a file
that it may be taken from, and a call to a symbol of its project that is called like the last part
of the callee, or to what an import of the calling file is resolved to.

The condition speaks of other rows only through what persists of them, so it stays true as the store
grows (`Import.IsSound.grows`, `Call.IsSound.grows`). Rows that are written are open, and linking
settles open rows with what is found for them.
-/

set_option autoImplicit false
set_option relaxedAutoImplicit false

namespace SymbolGraph

open Store (Ledger Preserves)

/-! ### Sound rows -/

/-- The import is marked as resolved exactly when it has a symbol, and then this is a symbol of its
project and its name in a file that it may be taken from. -/
structure Import.IsSound (store : Store) (entry : Import) : Prop where
  isResolved : entry.isResolved = true ↔ ∃ symbolId, entry.target = some symbolId
  target : ∀ symbolId, entry.target = some symbolId → ∃ symbol ∈ store.symbols,
    symbol.id = symbolId ∧ symbol.projectId = entry.projectId ∧ symbol.name = entry.name ∧
      entry.MayComeFrom symbol.filePath

/-- The callee has no dot, and an import of the calling file is resolved to the symbol. -/
def Call.IsImported (store : Store) (call : Call) (symbolId : Int) : Prop :=
  '.' ∉ call.callee.toList ∧ ∃ entry ∈ store.imports, entry.projectId = call.projectId ∧
    entry.filePath = call.filePath ∧ entry.isResolved = true ∧ entry.target = some symbolId

/-- If the call has a symbol, this is a symbol of its project that is called like the last part of
the callee or imported. -/
def Call.IsSound (store : Store) (call : Call) : Prop :=
  ∀ symbolId, call.target = some symbolId → ∃ symbol ∈ store.symbols,
    symbol.id = symbolId ∧ symbol.projectId = call.projectId ∧
      (Resolution.IsLastPart call.callee symbol.name ∨ call.IsImported store symbolId)

/-- All imports and calls are resolved to what they may be resolved to. -/
structure Store.ResolutionSound (store : Store) : Prop where
  imports : ∀ entry ∈ store.imports, entry.IsSound store
  calls : ∀ call ∈ store.calls, call.IsSound store

theorem Import.IsSound.grows {before after : Store} (hgrows : before.Grows after) {entry : Import}
    (hsound : entry.IsSound before) : entry.IsSound after where
  isResolved := hsound.isResolved
  target := by
    intro symbolId htarget
    obtain ⟨symbol, hsymbol, hid, hproject, hname, hfile⟩ := hsound.target symbolId htarget
    obtain ⟨kept, hkept, hpersists⟩ := hgrows.symbols.exists_mem hsymbol
    refine ⟨kept, hkept, hpersists.id.trans hid, hpersists.projectId.trans hproject,
      hpersists.name.trans hname, ?_⟩
    rw [hpersists.filePath]
    exact hfile

theorem Call.IsImported.grows {before after : Store} (hgrows : before.Grows after) {call : Call}
    {symbolId : Int} (himported : call.IsImported before symbolId) :
    call.IsImported after symbolId := by
  obtain ⟨hnone, entry, hentry, hproject, hfile, hresolved, htarget⟩ := himported
  obtain ⟨kept, hkept, hpersists⟩ := hgrows.imports.exists_mem hentry
  obtain ⟨hstays, hsame⟩ := hpersists.resolved hresolved
  exact ⟨hnone, kept, hkept, hpersists.projectId.trans hproject, hpersists.filePath.trans hfile,
    hstays, hsame.trans htarget⟩

theorem Call.IsSound.grows {before after : Store} (hgrows : before.Grows after) {call : Call}
    (hsound : call.IsSound before) : call.IsSound after := by
  intro symbolId htarget
  obtain ⟨symbol, hsymbol, hid, hproject, hname⟩ := hsound symbolId htarget
  obtain ⟨kept, hkept, hpersists⟩ := hgrows.symbols.exists_mem hsymbol
  refine ⟨kept, hkept, hpersists.id.trans hid, hpersists.projectId.trans hproject, ?_⟩
  rw [hpersists.name]
  exact hname.imp_right fun himported ↦ himported.grows hgrows

namespace Store

theorem resolutionSound_empty : empty.ResolutionSound where
  imports := by simp [empty]
  calls := by simp [empty]

/-! ### Writing -/

/-- The store grows, and it is sound after when it was before. -/
structure KeepsResolutionSound (before after : Store) : Prop where
  grows : before.Grows after
  sound : before.ResolutionSound → after.ResolutionSound

/-- New rows are open, and other columns than those of the resolution may be written. -/
theorem keepsResolutionSound_of_grows {before after : Store} (hgrows : before.Grows after)
    (himports : before.ResolutionSound → ∀ entry ∈ after.imports, entry.IsSound before)
    (hcalls : before.ResolutionSound → ∀ call ∈ after.calls, call.IsSound before) :
    before.KeepsResolutionSound after where
  grows := hgrows
  sound := fun hsound ↦
    { imports := fun entry hentry ↦ (himports hsound entry hentry).grows hgrows
      calls := fun call hcall ↦ (hcalls hsound call hcall).grows hgrows }

theorem isSound_newImport (store : Store) (file : FileScope) (id : Int) (mention : ImportMention) :
    (file.newImport id mention).IsSound store where
  isResolved := by simp [FileScope.newImport]
  target := by
    intro symbolId htarget
    cases htarget

theorem isSound_takeOver {store : Store} {entry : Import} (hsound : entry.IsSound store)
    (mention : ImportMention) : (entry.takeOver mention).IsSound store :=
  ⟨hsound.isResolved, hsound.target⟩

theorem isSound_newCall (store : Store) (file : FileScope) (id callerId : Int) (callee : String)
    (line : Int) : (file.newCall id callerId callee line).IsSound store := by
  intro symbolId htarget
  cases htarget

/-- Writing to the rows of a file keeps the resolution sound. -/
theorem keptByFileWrites_resolutionSound : KeptByFileWrites KeepsResolutionSound where
  refl := fun store ↦ ⟨Grows.refl store, id⟩
  trans := fun first second third hfirst hsecond ↦
    ⟨Grows.trans first second third hfirst.grows hsecond.grows,
      fun hsound ↦ hsecond.sound (hfirst.sound hsound)⟩
  upsertSymbol := by
    intro file parentId declaration store id later hrun
    have hgrows := grows_upsertSymbol file parentId declaration store id later hrun
    refine keepsResolutionSound_of_grows hgrows ?_ ?_
    · rcases upsertSymbol_cases hrun with ⟨_, _, _, _, _, rfl⟩ | ⟨_, _, _, _, rfl⟩
      · exact ResolutionSound.imports
      · exact ResolutionSound.imports
    · rcases upsertSymbol_cases hrun with ⟨_, _, _, _, _, rfl⟩ | ⟨_, _, _, _, rfl⟩
      · exact ResolutionSound.calls
      · exact ResolutionSound.calls
  upsertImport := by
    intro file mention store value later hrun
    have hgrows := grows_upsertImport file mention store value later hrun
    rcases upsertImport_cases hrun with ⟨_, rfl⟩ | ⟨_, _, rfl⟩
    · refine keepsResolutionSound_of_grows hgrows (fun hsound ↦ ?_) ResolutionSound.calls
      exact forall_mem_amendWhere hsound.imports fun entry _ hentry ↦
        isSound_takeOver hentry mention
    · refine keepsResolutionSound_of_grows hgrows (fun hsound ↦ ?_) ResolutionSound.calls
      exact forall_mem_concat hsound.imports (isSound_newImport store file _ mention)
  insertCall := by
    intro file callerId callee line store isNew later hrun
    have hgrows := grows_insertCall file callerId callee line store isNew later hrun
    rcases insertCall_cases hrun with ⟨_, _, rfl⟩ | ⟨_, _, _, _, rfl⟩
    · exact ⟨hgrows, id⟩
    · refine keepsResolutionSound_of_grows hgrows ResolutionSound.imports (fun hsound ↦ ?_)
      exact forall_mem_concat hsound.calls (isSound_newCall store file _ callerId callee line)

theorem resolutionSound_ensureProject (name url : String) :
    Preserves KeepsResolutionSound (ensureProject name url) := by
  intro store project later hrun
  have hgrows := grows_ensureProject name url store project later hrun
  rcases ensureProject_cases hrun with ⟨-, -, rfl⟩ | ⟨-, -, rfl⟩
  · exact ⟨hgrows, id⟩
  · exact keepsResolutionSound_of_grows hgrows ResolutionSound.imports ResolutionSound.calls

end Store

/-! ### Linking -/

namespace Resolution

variable {store : Store}

/-- An import settled with the symbol that is found for it is sound. -/
theorem isSound_settleImport {entry : Import} {symbolId : Int}
    (hfound : importSymbol store entry.projectId entry = some symbolId) :
    (entry.settle symbolId).IsSound store where
  isResolved := ⟨fun _ ↦ ⟨symbolId, rfl⟩, fun _ ↦ rfl⟩
  target := by
    intro other htarget
    obtain rfl := Option.some.inj htarget
    exact importSymbol_cases hfound

/-- A call settled with the symbol that is found for it is sound where imports are. -/
theorem isSound_settleCall (himports : ∀ entry ∈ store.imports, entry.IsSound store) {call : Call}
    {symbolId : Int} (hfound : callSymbol store call.projectId call = some symbolId) :
    (call.settle symbolId).IsSound store := by
  intro other htarget
  obtain rfl := Option.some.inj htarget
  rcases callSymbol_cases hfound with ⟨name, hlast, symbol, hsymbol, hid, hproject, rfl, -⟩ |
    ⟨hnone, entry, hentry, hproject, hfile, hresolved, -, htarget⟩
  · exact ⟨symbol, hsymbol, hid, hproject, Or.inl hlast⟩
  · obtain ⟨symbol, hsymbol, hid, hsame, -⟩ := (himports entry hentry).target _ htarget
    exact ⟨symbol, hsymbol, hid, hsame.trans hproject,
      Or.inr ⟨hnone, entry, hentry, hproject, hfile, hresolved, htarget⟩⟩

/-- What is found for a row of the project is found for it in its own project. -/
theorem eq_of_within_eq_some {ρ : Type} {ledger : Ledger ρ} {projectId symbolId : Int} {size : Nat}
    {symbolOf : ρ → Option Int} {row : ρ}
    (hfound : within ledger projectId size symbolOf row = some symbolId) :
    ledger.projectId row = projectId ∧ symbolOf row = some symbolId := by
  unfold within at hfound
  split at hfound
  · rename_i hrow
    exact ⟨hrow.1, hfound⟩
  · cases hfound

/-- Linking imports keeps the resolution sound. -/
theorem resolutionSound_linkedImports (hsound : store.ResolutionSound) {projectId : Int}
    {size : Nat} (hgrows : store.Grows (linkedImports store projectId size)) :
    (linkedImports store projectId size).ResolutionSound where
  imports := by
    have hkept : ∀ entry ∈ (linkedImports store projectId size).imports, entry.IsSound store := by
      refine @Ledger.forall_mem_settleRows _ .imports _ _ _ hsound.imports ?_
      intro entry _ symbolId hfound
      obtain ⟨rfl, hsymbol⟩ := eq_of_within_eq_some hfound
      exact isSound_settleImport hsymbol
    exact fun entry hentry ↦ (hkept entry hentry).grows hgrows
  calls := fun call hcall ↦ (hsound.calls call hcall).grows hgrows

/-- Linking calls keeps the resolution sound. -/
theorem resolutionSound_linkedCalls (hsound : store.ResolutionSound) {projectId : Int}
    {size : Nat} (hgrows : store.Grows (linkedCalls store projectId size)) :
    (linkedCalls store projectId size).ResolutionSound where
  imports := fun entry hentry ↦ (hsound.imports entry hentry).grows hgrows
  calls := by
    have hkept : ∀ call ∈ (linkedCalls store projectId size).calls, call.IsSound store := by
      refine @Ledger.forall_mem_settleRows _ .calls _ _ _ hsound.calls ?_
      intro call _ symbolId hfound
      obtain ⟨rfl, hsymbol⟩ := eq_of_within_eq_some hfound
      exact isSound_settleCall hsound.imports hsymbol
    exact fun call hcall ↦ (hkept call hcall).grows hgrows

end Resolution

/-- A step of an ordinary run keeps the resolution sound. -/
theorem resolutionSound_apply (step : PipelineStep) {store : Store} (hstore : store.WellFormed)
    (hsound : store.ResolutionSound) : (step.operation.apply store).ResolutionSound := by
  have hpreorder := Store.keptByFileWrites_resolutionSound.toIsPreorder
  cases step with
  | ensureProject name url =>
    exact ((Store.resolutionSound_ensureProject name url).attempt hpreorder store).sound hsound
  | ingestFile projectId path source =>
    have hfile := Ingest.preserves_file Store.keptByFileWrites_resolutionSound projectId path source
    exact (hfile.attempt hpreorder store).sound hsound
  | link projectId batchSize =>
    rw [PipelineStep.operation, apply_link hstore]
    have hmiddle := Resolution.relates_linkedImports Store.keptByWrites_wellFormed hstore projectId
      batchSize hstore
    have himports := Resolution.relates_linkedImports Store.keptByWrites_grows hstore projectId
      batchSize
    have hcalls := Resolution.relates_linkedCalls Store.keptByWrites_grows hmiddle projectId
      batchSize
    exact Resolution.resolutionSound_linkedCalls
      (Resolution.resolutionSound_linkedImports hsound himports) hcalls

/-- In every store that ordinary runs over any projects reach, imports are marked as resolved
exactly when they have a symbol, and imports and calls have the symbols they may have. -/
theorem resolutionSound_storeAfterSteps (steps : List PipelineStep) :
    (storeAfterSteps steps).ResolutionSound := by
  refine storeAfterSteps_induct Store.resolutionSound_empty ?_ steps
  exact fun store step hstore hsound ↦ resolutionSound_apply step hstore hsound

end SymbolGraph
