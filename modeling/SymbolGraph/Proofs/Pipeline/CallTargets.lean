import SymbolGraph.Proofs.Pipeline.Forest
import SymbolGraph.Proofs.Pipeline.Soundness

/-!
# Members of classes and modules as targets of calls

Inside a file a name never means the module, and a bare name never means a member of a class. So a
call without a dot reaches a member, and any call a module, only through an import of the calling
file (`bareCallsImportMembers_storeAfterSteps`, `callsImportModules_storeAfterSteps`). Imports do
bring in both. Of the symbols of its name in a file an import stands for the earliest, which may be
a member above the function that is meant (`importedMember`), or the module of a file that is called
like its function (`importedModule`).
-/

set_option autoImplicit false
set_option relaxedAutoImplicit false

namespace SymbolGraph

open Store (Ledger Preserves KeptByFileWrites)

/-! ### Declared targets -/

/-- The symbol lies inside another one, which is no class when the callee has no dot. -/
def Call.IsDeclared (store : Store) (call : Call) (symbolId : Int) : Prop :=
  ∃ symbol ∈ store.symbols, symbol.id = symbolId ∧ ∃ owner ∈ store.symbols,
    symbol.parentId = some owner.id ∧ ('.' ∉ call.callee.toList → owner.kind ≠ .classType)

/-- If the call has a symbol, this is a declared one or an imported one. -/
def Call.IsWellTargeted (store : Store) (call : Call) : Prop :=
  ∀ symbolId, call.target = some symbolId →
    call.IsDeclared store symbolId ∨ call.IsImported store symbolId

theorem Call.IsWellTargeted.grows {before after : Store} (hgrows : before.Grows after) {call : Call}
    (htargeted : call.IsWellTargeted before) : call.IsWellTargeted after := by
  intro symbolId htarget
  refine (htargeted symbolId htarget).imp ?_ fun himported ↦ himported.grows hgrows
  rintro ⟨symbol, hsymbol, hid, owner, howner, hparent, hclass⟩
  obtain ⟨kept, hkept, hpersists⟩ := hgrows.symbols.exists_mem hsymbol
  obtain ⟨keptOwner, hkeptOwner, hownerPersists⟩ := hgrows.symbols.exists_mem howner
  refine ⟨kept, hkept, hpersists.id.trans hid, keptOwner, hkeptOwner, ?_, ?_⟩
  · rw [hpersists.parentId, hownerPersists.id, hparent]
  · rw [hownerPersists.kind]
    exact hclass

namespace Resolution

variable {store : Store}

/-- What a bare name means in a file does not lie in a class. -/
theorem isDeclared_of_scopedNamed (hnested : store.Nested) {call : Call} {symbol : Symbol}
    (hfound : (store.fileView call.projectId call.filePath).scopedNamed call.callee call.callerId =
      some symbol) : call.IsDeclared store symbol.id := by
  have hmem := (FileView.mem_of_scopedNamed_eq_some hfound).1
  have hstored := (Store.mem_symbols_fileView_iff.mp hmem).1
  refine ⟨symbol, hstored, rfl, ?_⟩
  rcases FileView.place_of_scopedNamed_eq_some hfound with ⟨scope, hscope, hopens, hparent⟩ |
    ⟨hkind, htop⟩
  · refine ⟨scope, (Store.mem_symbols_fileView_iff.mp hscope).1, hparent, fun _ hclass ↦ ?_⟩
    simp [FileView.opensScope, hclass] at hopens
  · have hinside : symbol.parentId ≠ none := fun hroot ↦
      hkind ((hnested.isModule_iff hstored).mpr hroot)
    rw [FileView.isTopLevel, Bool.or_eq_true, Option.isNone_iff_eq_none, beq_iff_eq] at htop
    have hmodule := htop.resolve_left hinside
    obtain ⟨moduleId, hparent⟩ := Option.ne_none_iff_exists'.mp hinside
    obtain ⟨owner, howner, hid, hownerKind⟩ :=
      FileView.exists_of_moduleId?_eq_some (hmodule.symm.trans hparent)
    refine ⟨owner, (Store.mem_symbols_fileView_iff.mp howner).1, hid ▸ hparent, fun _ hclass ↦ ?_⟩
    cases hownerKind.symm.trans hclass

/-- What a call by a dotted name reaches lies inside another symbol. -/
theorem isDeclared_of_dotted (hnested : store.Nested) {call : Call} {symbolId : Int}
    (hdot : '.' ∈ call.callee.toList)
    (hfound : callSymbol store call.projectId call = some symbolId) :
    call.IsDeclared store symbolId := by
  rcases callSymbol_cases hfound with ⟨name, -, symbol, hsymbol, rfl, -, -, hplace⟩ | ⟨hnone, -⟩
  · have hinside : symbol.parentId ≠ none := by
      refine hplace.elim id fun hkind hroot ↦ hkind ?_
      exact (hnested.isModule_iff hsymbol).mpr hroot
    obtain ⟨parentId, hparent⟩ := Option.ne_none_iff_exists'.mp hinside
    obtain ⟨owner, howner, rfl, -⟩ := (hnested symbol hsymbol).parent parentId hparent
    exact ⟨symbol, hsymbol, rfl, owner, howner, hparent, fun hbare ↦ absurd hdot hbare⟩
  · exact absurd hdot hnone

/-- What a call by a bare name reaches lies inside another symbol that is no class, or is
imported. -/
theorem isDeclared_or_isImported_of_bare (hnested : store.Nested) {call : Call} {symbolId : Int}
    (hbare : '.' ∉ call.callee.toList)
    (hfound : callSymbol store call.projectId call = some symbolId) :
    call.IsDeclared store symbolId ∨ call.IsImported store symbolId := by
  rw [callSymbol_of_not_mem hbare] at hfound
  rcases Option.or_eq_some_iff.mp hfound with hscoped | ⟨-, himported⟩
  · obtain ⟨symbol, hsymbol, rfl⟩ := Option.map_eq_some_iff.mp hscoped
    exact Or.inl (isDeclared_of_scopedNamed hnested hsymbol)
  · obtain ⟨entry, hentry, hresolved, -, htarget⟩ :=
      FileView.exists_import_of_resolvedImport_eq_some himported
    obtain ⟨hstored, hproject, hfile⟩ := Store.mem_imports_fileView_iff.mp hentry
    exact Or.inr ⟨hbare, entry, hstored, hproject, hfile, hresolved, htarget⟩

/-- A call settled with the symbol that is found for it is well targeted. -/
theorem isWellTargeted_settleCall (hnested : store.Nested) {call : Call} {symbolId : Int}
    (hfound : callSymbol store call.projectId call = some symbolId) :
    (call.settle symbolId).IsWellTargeted store := by
  intro other htarget
  obtain rfl := Option.some.inj htarget
  by_cases hdot : '.' ∈ call.callee.toList
  · exact Or.inl (isDeclared_of_dotted hnested hdot hfound)
  · exact isDeclared_or_isImported_of_bare hnested hdot hfound

end Resolution

/-! ### Writing -/

namespace Store

/-- All calls are well targeted. -/
def WellTargeted (store : Store) : Prop :=
  ∀ call ∈ store.calls, call.IsWellTargeted store

theorem wellTargeted_empty : empty.WellTargeted := by
  intro call hcall
  cases hcall

/-- The store grows, and calls that have a symbol were there with it. -/
structure KeepsTargets (before after : Store) : Prop where
  grows : before.Grows after
  calls : ∀ call ∈ after.calls, call ∈ before.calls ∨ call.target = none

theorem KeepsTargets.wellTargeted {before after : Store} (hkeeps : before.KeepsTargets after)
    (htargeted : before.WellTargeted) : after.WellTargeted := by
  intro call hcall
  rcases hkeeps.calls call hcall with hold | hopen
  · exact (htargeted call hold).grows hkeeps.grows
  · intro symbolId htarget
    cases hopen.symm.trans htarget

/-- Writes to the rows of a file leave calls alone, and new calls are open. -/
theorem keptByFileWrites_keepsTargets : KeptByFileWrites KeepsTargets where
  refl := fun store ↦ ⟨Grows.refl store, fun _ ↦ Or.inl⟩
  trans := fun first second third hfirst hsecond ↦
    ⟨Grows.trans first second third hfirst.grows hsecond.grows, fun call hcall ↦
      (hsecond.calls call hcall).elim (hfirst.calls call) Or.inr⟩
  upsertSymbol := by
    intro file parentId declaration store id later hrun
    refine ⟨grows_upsertSymbol file parentId declaration store id later hrun, fun call hcall ↦ ?_⟩
    rcases upsertSymbol_cases hrun with ⟨-, -, -, -, -, rfl⟩ | ⟨-, -, -, -, rfl⟩
    · exact Or.inl hcall
    · exact Or.inl hcall
  upsertImport := by
    intro file mention store value later hrun
    refine ⟨grows_upsertImport file mention store value later hrun, fun call hcall ↦ ?_⟩
    rcases upsertImport_cases hrun with ⟨-, rfl⟩ | ⟨-, -, rfl⟩
    · exact Or.inl hcall
    · exact Or.inl hcall
  insertCall := by
    intro file callerId callee line store isNew later hrun
    refine ⟨grows_insertCall file callerId callee line store isNew later hrun,
      fun call hcall ↦ ?_⟩
    rcases insertCall_cases hrun with ⟨-, -, rfl⟩ | ⟨-, -, -, -, rfl⟩
    · exact Or.inl hcall
    · refine (List.mem_append.mp hcall).imp_right fun hnew ↦ ?_
      rw [List.mem_singleton.mp hnew]
      rfl

theorem keepsTargets_ensureProject (name url : String) :
    Preserves KeepsTargets (ensureProject name url) := by
  intro store project later hrun
  refine ⟨grows_ensureProject name url store project later hrun, fun call hcall ↦ ?_⟩
  rcases ensureProject_cases hrun with ⟨-, -, rfl⟩ | ⟨-, -, rfl⟩
  · exact Or.inl hcall
  · exact Or.inl hcall

end Store

/-! ### Linking -/

namespace Resolution

variable {store : Store} {projectId : Int} {size : Nat}

theorem wellTargeted_linkedCalls (hnested : store.Nested) (htargeted : store.WellTargeted)
    (hgrows : store.Grows (linkedCalls store projectId size)) :
    (linkedCalls store projectId size).WellTargeted := by
  have hkept : ∀ call ∈ (linkedCalls store projectId size).calls, call.IsWellTargeted store := by
    refine @Ledger.forall_mem_settleRows _ .calls _ _ _ htargeted ?_
    intro call _ symbolId hfound
    obtain ⟨rfl, hsymbol⟩ := eq_of_within_eq_some hfound
    exact isWellTargeted_settleCall hnested hsymbol
  exact fun call hcall ↦ (hkept call hcall).grows hgrows

/-- Linking a project keeps calls well targeted. -/
theorem wellTargeted_linked (hstore : store.WellFormed) (hnested : store.Nested)
    (htargeted : store.WellTargeted) : (linked store projectId size).WellTargeted := by
  have himports := relates_linkedImports Store.keptByWrites_grows hstore projectId size
  have hmiddle := wellFormed_linkedImports hstore projectId size
  refine wellTargeted_linkedCalls (hnested.of_sameSymbols rfl) ?_
    (relates_linkedCalls Store.keptByWrites_grows hmiddle projectId size)
  exact fun call hcall ↦ (htargeted call hcall).grows himports

end Resolution

/-! ### Runs -/

/-- A step of an ordinary run keeps calls well targeted in a nested store. -/
theorem wellTargeted_apply (step : PipelineStep) {store : Store} (hstore : store.WellFormed)
    (hnested : store.Nested) (htargeted : store.WellTargeted) :
    (step.operation.apply store).WellTargeted := by
  have hpreorder := Store.keptByFileWrites_keepsTargets.toIsPreorder
  cases step with
  | ensureProject name url =>
    have hkept := (Store.keepsTargets_ensureProject name url).attempt hpreorder store
    exact hkept.wellTargeted htargeted
  | ingestFile projectId path source =>
    have hfile := Ingest.preserves_file Store.keptByFileWrites_keepsTargets projectId path source
    exact (hfile.attempt hpreorder store).wellTargeted htargeted
  | link projectId batchSize =>
    rw [PipelineStep.operation, apply_link hstore]
    exact Resolution.wellTargeted_linked hstore hnested htargeted

theorem nested_wellTargeted_storeAfterSteps (steps : List PipelineStep) :
    (storeAfterSteps steps).Nested ∧ (storeAfterSteps steps).WellTargeted := by
  refine @storeAfterSteps_induct (fun store ↦ store.Nested ∧ store.WellTargeted)
    ⟨Store.nested_empty, Store.wellTargeted_empty⟩ ?_ steps
  rintro store step hstore ⟨hnested, htargeted⟩
  exact ⟨nested_apply step hstore hnested, wellTargeted_apply step hstore hnested htargeted⟩

namespace Store

/-- The symbol is declared directly inside a class. -/
def IsMember (store : Store) (symbol : Symbol) : Prop :=
  ∃ owner ∈ store.symbols, symbol.parentId = some owner.id ∧ owner.kind = .classType

/-- Calls without a dot reach members of classes only through imports of the calling file. -/
def BareCallsImportMembers (store : Store) : Prop :=
  ∀ call ∈ store.calls, '.' ∉ call.callee.toList → ∀ symbol ∈ store.symbols,
    call.target = some symbol.id → store.IsMember symbol → call.IsImported store symbol.id

/-- Calls reach modules only through imports of the calling file, and by names without a dot. -/
def CallsImportModules (store : Store) : Prop :=
  ∀ call ∈ store.calls, ∀ symbol ∈ store.symbols,
    call.target = some symbol.id → symbol.kind = .module → call.IsImported store symbol.id

variable {store : Store}

theorem WellTargeted.bareCallsImportMembers (hstore : store.WellFormed)
    (htargeted : store.WellTargeted) : store.BareCallsImportMembers := by
  rintro call hcall hbare symbol hsymbol htarget ⟨owner, howner, hparent, hclass⟩
  refine (htargeted call hcall symbol.id htarget).resolve_left ?_
  rintro ⟨same, hsame, hid, other, hother, hotherParent, hnoClass⟩
  obtain rfl := hstore.symbols.eq_of_id_eq hsame hsymbol hid
  have hownerId : other.id = owner.id := Option.some.inj (hotherParent.symm.trans hparent)
  obtain rfl := hstore.symbols.eq_of_id_eq hother howner hownerId
  exact hnoClass hbare hclass

theorem WellTargeted.callsImportModules (hstore : store.WellFormed) (hnested : store.Nested)
    (htargeted : store.WellTargeted) : store.CallsImportModules := by
  intro call hcall symbol hsymbol htarget hmodule
  refine (htargeted call hcall symbol.id htarget).resolve_left ?_
  rintro ⟨same, hsame, hid, owner, -, hparent, -⟩
  obtain rfl := hstore.symbols.eq_of_id_eq hsame hsymbol hid
  rw [(hnested.isModule_iff hsymbol).mp hmodule] at hparent
  cases hparent

end Store

/-- In every store that ordinary runs reach, a call without a dot reaches a member of a class only
when an import of the calling file stands for that member. -/
theorem bareCallsImportMembers_storeAfterSteps (steps : List PipelineStep) :
    (storeAfterSteps steps).BareCallsImportMembers :=
  (nested_wellTargeted_storeAfterSteps steps).2.bareCallsImportMembers (wellFormed_storeAfter _)

/-- In every store that ordinary runs reach, a call reaches a module only when it has no dot and
an import of the calling file stands for that module. -/
theorem callsImportModules_storeAfterSteps (steps : List PipelineStep) :
    (storeAfterSteps steps).CallsImportModules := by
  obtain ⟨hnested, htargeted⟩ := nested_wellTargeted_storeAfterSteps steps
  exact htargeted.callsImportModules (wellFormed_storeAfter _) hnested

/-! ### What imports bring in -/

namespace Resolution

variable {store : Store} {projectId symbolId : Int} {size : Nat}

/-- Linking a project with one open import and one open call, for which one symbol is found. -/
theorem linked_of_singleton {entry : Import} {call : Call} (hsize : 0 < size)
    (himports : store.imports = [entry]) (hentry : Ledger.imports.isOpenIn projectId entry = true)
    (hcalls : store.calls = [call]) (hcall : Ledger.calls.isOpenIn projectId call = true)
    (hsymbol : importSymbol store projectId entry = some symbolId)
    (hcallee : callSymbol { store with imports := [entry.settle symbolId] } projectId call =
      some symbolId) :
    linked store projectId size =
      { store with imports := [entry.settle symbolId], calls := [call.settle symbolId] } := by
  rw [Ledger.isOpenIn, Bool.and_eq_true, beq_iff_eq] at hentry hcall
  have hmiddle : linkedImports store projectId size =
      { store with imports := [entry.settle symbolId] } := by
    have hfound : within .imports projectId size (importSymbol store projectId) entry =
        some symbolId := (if_pos ⟨hentry.1, hsize⟩).trans hsymbol
    have hrows : store.imports.map (Ledger.imports.settleWith
        (within .imports projectId size (importSymbol store projectId))) =
          [entry.settle symbolId] := by
      rw [himports, List.map_singleton, Ledger.settleWith_of_some hentry.2 hfound]
      rfl
    exact congrArg (Ledger.imports.put store) hrows
  have hlast : ∀ middle : Store, middle.calls = [call] →
      callSymbol middle projectId call = some symbolId →
        linkedCalls middle projectId size = { middle with calls := [call.settle symbolId] } := by
    intro middle hmiddleCalls hfound
    have hreached : within .calls projectId size (callSymbol middle projectId) call =
        some symbolId := (if_pos ⟨hcall.1, hsize⟩).trans hfound
    have hrows : middle.calls.map (Ledger.calls.settleWith
        (within .calls projectId size (callSymbol middle projectId))) = [call.settle symbolId] := by
      rw [hmiddleCalls, List.map_singleton, Ledger.settleWith_of_some hcall.2 hreached]
      rfl
    exact congrArg (Ledger.calls.put middle) hrows
  rw [linked, hmiddle]
  exact hlast _ hcalls hcallee

end Resolution

/-- A member stands above the function of its name, and another file imports and calls the name. -/
def importedMember : List PipelineStep :=
  [.ensureProject "demo" "file:///demo",
    .ingestFile 1 "lib.py"
      "class Box:\n    def save(self):\n        pass\n\n\ndef save():\n    pass\n",
    .ingestFile 1 "app.py" "from lib import save\n\nsave()\n"]

/-- The bare call reaches the member. -/
theorem exists_bareCall_importedMember :
    let store := storeAfterSteps (importedMember ++ [.link 1 1])
    ∃ call ∈ store.calls, '.' ∉ call.callee.toList ∧ ∃ symbol ∈ store.symbols,
      call.target = some symbol.id ∧ store.IsMember symbol := by
  let entry : Import := ⟨1, 1, "app.py", "lib", "save", none, 1, none, false⟩
  let call : Call := ⟨1, 1, "app.py", 5, "save", 3, none⟩
  have hrows : let store := storeAfterSteps importedMember
      let named := store.symbols.filter fun symbol ↦
        symbol.projectId == 1 && symbol.name == entry.name
      store.imports = [entry] ∧ store.calls = [call] ∧
        (named.Pairwise fun left right ↦ (left.compareByDistance right).isLE = true) ∧
        Resolution.importTarget entry named = some 3 ∧
        Resolution.callSymbol { store with imports := [entry.settle 3] } 1 call = some 3 ∧
        ∃ symbol ∈ store.symbols, some 3 = some symbol.id ∧ ∃ owner ∈ store.symbols,
          symbol.parentId = some owner.id ∧ owner.kind = .classType := by
    decide +kernel
  rw [storeAfterSteps_link]
  generalize storeAfterSteps importedMember = store at hrows
  obtain ⟨himports, hcalls, hsorted, hentry, hcall, hmember⟩ := hrows
  rw [← Store.symbolsNamed_of_pairwise hsorted] at hentry
  rw [Resolution.linked_of_singleton Nat.zero_lt_one himports rfl hcalls rfl hentry hcall]
  exact ⟨call.settle 3, List.mem_singleton_self _, by decide, hmember⟩

/-- A file declares a function of its own name, and another file imports and calls the name. -/
def importedModule : List PipelineStep :=
  [.ensureProject "demo" "file:///demo",
    .ingestFile 1 "parse.py" "def parse():\n    pass\n",
    .ingestFile 1 "app.py" "from parse import parse\n\nparse()\n"]

/-- The call reaches the module, and not the function of its name inside it. -/
theorem exists_call_importedModule :
    let store := storeAfterSteps (importedModule ++ [.link 1 1])
    ∃ call ∈ store.calls, ∃ symbol ∈ store.symbols, call.target = some symbol.id ∧
      symbol.kind = .module ∧ ∃ other ∈ store.symbols, other.parentId = some symbol.id ∧
        other.name = call.callee ∧ other.kind = .function := by
  let entry : Import := ⟨1, 1, "app.py", "parse", "parse", none, 1, none, false⟩
  let call : Call := ⟨1, 1, "app.py", 3, "parse", 3, none⟩
  have hrows : let store := storeAfterSteps importedModule
      let named := store.symbols.filter fun symbol ↦
        symbol.projectId == 1 && symbol.name == entry.name
      store.imports = [entry] ∧ store.calls = [call] ∧
        (named.Pairwise fun left right ↦ (left.compareByDistance right).isLE = true) ∧
        Resolution.importTarget entry named = some 1 ∧
        Resolution.callSymbol { store with imports := [entry.settle 1] } 1 call = some 1 ∧
        ∃ symbol ∈ store.symbols, some 1 = some symbol.id ∧ symbol.kind = .module ∧
          ∃ other ∈ store.symbols, other.parentId = some symbol.id ∧ other.name = "parse" ∧
            other.kind = .function := by
    decide +kernel
  rw [storeAfterSteps_link]
  generalize storeAfterSteps importedModule = store at hrows
  obtain ⟨himports, hcalls, hsorted, hentry, hcall, hmodule⟩ := hrows
  rw [← Store.symbolsNamed_of_pairwise hsorted] at hentry
  rw [Resolution.linked_of_singleton Nat.zero_lt_one himports rfl hcalls rfl hentry hcall]
  exact ⟨call.settle 1, List.mem_singleton_self _, hmodule⟩

end SymbolGraph
