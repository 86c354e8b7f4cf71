import SymbolGraph.Proofs.Store.Growth

/-!
# Well-formed stores

A well-formed store is what the schema of its tables promises: ids ascend from one in every table,
no two rows of a table share their natural key, the key column of a parent is zero exactly for rows
without one, an import is marked as resolved exactly when it has a symbol, and whatever a row refers
to exists. The empty store is well formed, and every write keeps a store so
(`keptByWrites_wellFormed`).
-/

set_option autoImplicit false
set_option relaxedAutoImplicit false

namespace SymbolGraph

/-! ### Natural keys -/

/-- The file, the parent and the name of a symbol. -/
def Symbol.key (symbol : Symbol) : Int × String × Int × String :=
  (symbol.projectId, symbol.filePath, symbol.parentKey, symbol.name)

/-- The file, the source and the name of an import. -/
def Import.key (entry : Import) : Int × String × String × String :=
  (entry.projectId, entry.filePath, entry.source, entry.name)

/-- The project, the caller, the callee and the line of a call. -/
def Call.key (call : Call) : Int × Int × String × Int :=
  (call.projectId, call.callerId, call.callee, call.line)

namespace Store

theorem FileScope.holdsSymbol_eq_true_iff {file : FileScope} {parentKey : Int} {name : String}
    {symbol : Symbol} : file.holdsSymbol parentKey name symbol = true ↔
      symbol.key = (file.projectId, file.filePath, parentKey, name) := by
  simp [holdsSymbol, Symbol.key, and_assoc]

theorem FileScope.holdsImport_eq_true_iff {file : FileScope} {source name : String}
    {entry : Import} : file.holdsImport source name entry = true ↔
      entry.key = (file.projectId, file.filePath, source, name) := by
  simp [holdsImport, Import.key, and_assoc]

theorem FileScope.holdsCall_eq_true_iff {file : FileScope} {callerId line : Int} {callee : String}
    {call : Call} : file.holdsCall callerId callee line call = true ↔
      call.key = (file.projectId, callerId, callee, line) := by
  simp [holdsCall, Call.key, and_assoc]

end Store

/-! ### References -/

/-- The project and the parent of the symbol exist. -/
def Symbol.IsAnchored (store : Store) (symbol : Symbol) : Prop :=
  store.hasProject symbol.projectId = true ∧
    ∀ parentId, symbol.parentId = some parentId → store.hasSymbol parentId = true

/-- The project of the import exists, and so does the symbol it is resolved to. -/
def Import.IsAnchored (store : Store) (entry : Import) : Prop :=
  store.hasProject entry.projectId = true ∧
    ∀ symbolId, entry.target = some symbolId → store.hasSymbol symbolId = true

/-- The project and the caller of the call exist, and so does the symbol it is resolved to. -/
def Call.IsAnchored (store : Store) (call : Call) : Prop :=
  store.hasProject call.projectId = true ∧ store.hasSymbol call.callerId = true ∧
    ∀ symbolId, call.target = some symbolId → store.hasSymbol symbolId = true

theorem Symbol.IsAnchored.grows {before after : Store} (hgrows : before.Grows after)
    {symbol : Symbol} (hanchored : symbol.IsAnchored before) : symbol.IsAnchored after :=
  ⟨hgrows.hasProject hanchored.1, fun parentId hparent ↦
    hgrows.hasSymbol (hanchored.2 parentId hparent)⟩

theorem Import.IsAnchored.grows {before after : Store} (hgrows : before.Grows after)
    {entry : Import} (hanchored : entry.IsAnchored before) : entry.IsAnchored after :=
  ⟨hgrows.hasProject hanchored.1, fun symbolId htarget ↦
    hgrows.hasSymbol (hanchored.2 symbolId htarget)⟩

theorem Call.IsAnchored.grows {before after : Store} (hgrows : before.Grows after) {call : Call}
    (hanchored : call.IsAnchored before) : call.IsAnchored after :=
  ⟨hgrows.hasProject hanchored.1, hgrows.hasSymbol hanchored.2.1, fun symbolId htarget ↦
    hgrows.hasSymbol (hanchored.2.2 symbolId htarget)⟩

namespace Store

/-! ### Well-formed stores -/

/-- Ids and keys name single rows, the columns that repeat others agree with them, and references
lead to rows. -/
structure WellFormed (store : Store) : Prop where
  projects : KeyedTable Project.id Project.url store.projects
  symbols : KeyedTable Symbol.id Symbol.key store.symbols
  imports : KeyedTable Import.id Import.key store.imports
  calls : KeyedTable Call.id Call.key store.calls
  parentKey : ∀ symbol ∈ store.symbols, symbol.parentKey = symbol.parentId.getD 0
  isResolved : ∀ entry ∈ store.imports, entry.isResolved = entry.target.isSome
  anchoredSymbols : ∀ symbol ∈ store.symbols, symbol.IsAnchored store
  anchoredImports : ∀ entry ∈ store.imports, entry.IsAnchored store
  anchoredCalls : ∀ call ∈ store.calls, call.IsAnchored store

theorem wellFormed_empty : empty.WellFormed where
  projects := .nil
  symbols := .nil
  imports := .nil
  calls := .nil
  parentKey := by simp [empty]
  isResolved := by simp [empty]
  anchoredSymbols := by simp [empty]
  anchoredImports := by simp [empty]
  anchoredCalls := by simp [empty]

/-- The store after is well formed when the store before is. -/
def KeepsWellFormed (before after : Store) : Prop :=
  before.WellFormed → after.WellFormed

theorem KeepsWellFormed.refl (store : Store) : store.KeepsWellFormed store :=
  id

theorem KeepsWellFormed.trans (first second third : Store) (hfirst : first.KeepsWellFormed second)
    (hsecond : second.KeepsWellFormed third) : first.KeepsWellFormed third :=
  fun hstore ↦ hsecond (hfirst hstore)

/-- A store of the same symbols and more is well formed when what was written to its imports is. -/
theorem WellFormed.withImports {store : Store} (hstore : store.WellFormed) {entries : List Import}
    (htable : KeyedTable Import.id Import.key entries)
    (hresolved : ∀ entry ∈ entries, entry.isResolved = entry.target.isSome)
    (hanchored : ∀ entry ∈ entries, entry.IsAnchored store) :
    WellFormed { store with imports := entries } :=
  { hstore with imports := htable, isResolved := hresolved, anchoredImports := hanchored }

theorem WellFormed.withCalls {store : Store} (hstore : store.WellFormed) {calls : List Call}
    (htable : KeyedTable Call.id Call.key calls)
    (hanchored : ∀ call ∈ calls, call.IsAnchored store) :
    WellFormed { store with calls := calls } :=
  { hstore with calls := htable, anchoredCalls := hanchored }

/-- Rows that were there stay anchored when projects and symbols are written. -/
theorem WellFormed.withSymbols {store after : Store} (hstore : store.WellFormed)
    (hgrows : store.Grows after) (hprojects : KeyedTable Project.id Project.url after.projects)
    (hsymbols : KeyedTable Symbol.id Symbol.key after.symbols)
    (hparentKey : ∀ symbol ∈ after.symbols, symbol.parentKey = symbol.parentId.getD 0)
    (hanchored : ∀ symbol ∈ after.symbols, symbol.IsAnchored after)
    (himports : after.imports = store.imports) (hcalls : after.calls = store.calls) :
    after.WellFormed where
  projects := hprojects
  symbols := hsymbols
  imports := himports ▸ hstore.imports
  calls := hcalls ▸ hstore.calls
  parentKey := hparentKey
  isResolved := himports ▸ hstore.isResolved
  anchoredSymbols := hanchored
  anchoredImports := fun entry hentry ↦
    (hstore.anchoredImports entry (himports ▸ hentry)).grows hgrows
  anchoredCalls := fun call hcall ↦ (hstore.anchoredCalls call (hcalls ▸ hcall)).grows hgrows

/-! ### Every write keeps a store well formed -/

theorem wellFormed_ensureProject (name url : String) :
    Preserves KeepsWellFormed (ensureProject name url) := by
  intro store project later hrun hstore
  have hgrows := grows_ensureProject name url store project later hrun
  rcases ensureProject_cases hrun with ⟨-, -, rfl⟩ | ⟨hfree, rfl, rfl⟩
  · exact hstore
  · refine hstore.withSymbols hgrows (hstore.projects.concat rfl hfree) hstore.symbols
      hstore.parentKey ?_ rfl rfl
    intro symbol hsymbol
    exact (hstore.anchoredSymbols symbol hsymbol).grows hgrows

theorem wellFormed_upsertSymbol (file : FileScope) (parentId : Option Int)
    (declaration : Declaration) :
    Preserves KeepsWellFormed (upsertSymbol file parentId declaration) := by
  intro store id later hrun hstore
  have hgrows := grows_upsertSymbol file parentId declaration store id later hrun
  have hanchored : ∀ symbol ∈ store.symbols, symbol.IsAnchored later := fun symbol hsymbol ↦
    (hstore.anchoredSymbols symbol hsymbol).grows hgrows
  rcases upsertSymbol_cases hrun with
    ⟨existing, hexisting, hholds, hkind, rfl, rfl⟩ | ⟨hfree, hproject, hparent, hid, rfl⟩
  · refine hstore.withSymbols hgrows hstore.projects (hstore.symbols.amendWhere ?_ ?_) ?_ ?_ rfl rfl
    · exact fun symbol ↦ rfl
    · exact fun symbol ↦ rfl
    · exact forall_mem_amendWhere hstore.parentKey fun symbol _ hparentKey ↦ hparentKey
    · exact forall_mem_amendWhere hanchored fun symbol _ hsymbol ↦ hsymbol
  · have hkey : ∀ symbol ∈ store.symbols,
        symbol.key ≠ (file.newSymbol id parentId declaration).key := by
      intro symbol hsymbol heq
      have hholds := FileScope.holdsSymbol_eq_true_iff.mpr heq
      exact Bool.false_ne_true ((hfree symbol hsymbol).symm.trans hholds)
    refine hstore.withSymbols hgrows hstore.projects (hstore.symbols.concat hid hkey) ?_ ?_ rfl rfl
    · exact forall_mem_concat hstore.parentKey rfl
    · refine forall_mem_concat hanchored ⟨hproject, ?_⟩
      intro parent hparentId
      -- a row may stand below itself
      rcases hparent parent hparentId with rfl | hstored
      · exact hasSymbol_eq_true_iff.mpr ⟨_, List.mem_append_right _ List.mem_cons_self, rfl⟩
      · exact hgrows.hasSymbol hstored

theorem wellFormed_upsertImport (file : FileScope) (mention : ImportMention) :
    Preserves KeepsWellFormed (upsertImport file mention) := by
  intro store value later hrun hstore
  rcases upsertImport_cases hrun with ⟨-, rfl⟩ | ⟨hfree, hproject, rfl⟩
  · refine hstore.withImports (hstore.imports.amendWhere ?_ ?_) ?_ ?_
    · exact fun entry ↦ rfl
    · exact fun entry ↦ rfl
    · exact forall_mem_amendWhere hstore.isResolved fun entry _ hresolved ↦ hresolved
    · exact forall_mem_amendWhere hstore.anchoredImports fun entry _ hanchored ↦ hanchored
  · refine hstore.withImports (hstore.imports.concat rfl ?_) ?_ ?_
    · intro entry hentry heq
      have hholds := FileScope.holdsImport_eq_true_iff.mpr heq
      exact Bool.false_ne_true ((hfree entry hentry).symm.trans hholds)
    · exact forall_mem_concat hstore.isResolved rfl
    · refine forall_mem_concat hstore.anchoredImports ⟨hproject, ?_⟩
      intro symbolId htarget
      cases htarget

theorem wellFormed_insertCall (file : FileScope) (callerId : Int) (callee : String) (line : Int) :
    Preserves KeepsWellFormed (insertCall file callerId callee line) := by
  intro store isNew later hrun hstore
  rcases insertCall_cases hrun with ⟨-, -, rfl⟩ | ⟨hfree, hproject, hcaller, -, rfl⟩
  · exact hstore
  · refine hstore.withCalls (hstore.calls.concat rfl ?_) ?_
    · intro call hcall heq
      have hholds := FileScope.holdsCall_eq_true_iff.mpr heq
      exact Bool.false_ne_true ((hfree call hcall).symm.trans hholds)
    · refine forall_mem_concat hstore.anchoredCalls ⟨hproject, hcaller, ?_⟩
      intro symbolId htarget
      cases htarget

theorem wellFormed_resolveImport (importId symbolId : Int) :
    Preserves KeepsWellFormed (Ledger.imports.resolve importId symbolId) := by
  intro store count later hrun hstore
  rcases Ledger.resolve_cases hrun with ⟨-, -, rfl⟩ | ⟨-, hsymbol, -, rfl⟩
  · exact hstore
  · refine hstore.withImports (hstore.imports.amendWhere ?_ ?_) ?_ ?_
    · exact fun entry ↦ rfl
    · exact fun entry ↦ rfl
    · exact forall_mem_amendWhere hstore.isResolved fun entry _ _ ↦ rfl
    · refine forall_mem_amendWhere hstore.anchoredImports fun entry _ hanchored ↦ ?_
      refine ⟨hanchored.1, fun target htarget ↦ ?_⟩
      obtain rfl := Option.some.inj htarget
      exact hsymbol

theorem wellFormed_resolveCall (callId symbolId : Int) :
    Preserves KeepsWellFormed (Ledger.calls.resolve callId symbolId) := by
  intro store count later hrun hstore
  rcases Ledger.resolve_cases hrun with ⟨-, -, rfl⟩ | ⟨-, hsymbol, -, rfl⟩
  · exact hstore
  · refine hstore.withCalls (hstore.calls.amendWhere ?_ ?_) ?_
    · exact fun call ↦ rfl
    · exact fun call ↦ rfl
    · refine forall_mem_amendWhere hstore.anchoredCalls fun call _ hanchored ↦ ?_
      refine ⟨hanchored.1, hanchored.2.1, fun target htarget ↦ ?_⟩
      obtain rfl := Option.some.inj htarget
      exact hsymbol

/-- Every write keeps a store well formed. -/
theorem keptByWrites_wellFormed : KeptByWrites KeepsWellFormed where
  refl := KeepsWellFormed.refl
  trans := KeepsWellFormed.trans
  upsertSymbol := wellFormed_upsertSymbol
  upsertImport := wellFormed_upsertImport
  insertCall := wellFormed_insertCall
  ensureProject := wellFormed_ensureProject
  resolveImport := wellFormed_resolveImport
  resolveCall := wellFormed_resolveCall

/-! ### Parents and their keys -/

namespace WellFormed

variable {store : Store} (hstore : store.WellFormed)
include hstore

theorem symbol?_id {symbol : Symbol} (hsymbol : symbol ∈ store.symbols) :
    store.symbol? symbol.id = some symbol := by
  cases hfound : store.symbol? symbol.id with
  | none => exact absurd (beq_self_eq_true symbol.id) (List.find?_eq_none.mp hfound symbol hsymbol)
  | some other =>
    have hother := List.mem_of_find?_eq_some hfound
    have hid := List.find?_some hfound
    rw [beq_iff_eq] at hid
    exact congrArg some (hstore.symbols.eq_of_id_eq hother hsymbol hid)

/-- The id of a stored symbol is not the number that stands for no parent. -/
theorem one_le_of_hasSymbol {id : Int} (hstored : store.hasSymbol id = true) : 1 ≤ id := by
  obtain ⟨symbol, hmem, rfl⟩ := hasSymbol_eq_true_iff.mp hstored
  exact hstore.symbols.positive symbol hmem

theorem one_le_parentId {symbol : Symbol} (hsymbol : symbol ∈ store.symbols) {parentId : Int}
    (hparent : symbol.parentId = some parentId) : 1 ≤ parentId :=
  hstore.one_le_of_hasSymbol ((hstore.anchoredSymbols symbol hsymbol).2 parentId hparent)

/-- The key of a parent tells which one it is. -/
theorem parentKey_eq_iff {symbol : Symbol} (hsymbol : symbol ∈ store.symbols)
    {parentId : Option Int} (hparent : ∀ id, parentId = some id → store.hasSymbol id = true) :
    symbol.parentKey = parentId.getD 0 ↔ symbol.parentId = parentId := by
  rw [hstore.parentKey symbol hsymbol]
  refine ⟨fun hkey ↦ ?_, fun hparent ↦ by rw [hparent]⟩
  cases hsymbolParent : symbol.parentId with
  | none =>
    cases parentId with
    | none => rfl
    | some id =>
      have hpositive := hstore.one_le_of_hasSymbol (hparent id rfl)
      rw [hsymbolParent, Option.getD_none, Option.getD_some] at hkey
      omega
  | some own =>
    have hpositive := hstore.one_le_parentId hsymbol hsymbolParent
    rw [hsymbolParent, Option.getD_some] at hkey
    cases parentId with
    | none =>
      rw [Option.getD_none] at hkey
      omega
    | some id => rw [hkey, Option.getD_some]

end WellFormed

end Store

end SymbolGraph
