import SymbolGraph.Proofs.Store.Change
import SymbolGraph.Proofs.Store.Table
import SymbolGraph.Store.Query

/-!
# Growth of a store

A store only grows. `Grows` says that every row of the store before is a row of the store after:
projects are the same, symbols keep their id, project, parent, file, name and kind, imports and
calls keep what they were written as, and what is resolved stays resolved to the same symbol. It is
a preorder that every write preserves (`keptByWrites_grows`). Rows that exist go on existing
(`Grows.hasSymbol`, `Grows.hasProject`), and no project loses resolved imports or calls
(`Grows.importStats_resolved_le`, `Grows.callStats_resolved_le`).
-/

set_option autoImplicit false
set_option relaxedAutoImplicit false

namespace SymbolGraph

/-! ### Rows that persist -/

/-- The symbol is still the same one; its signature and its span may be others. -/
structure Symbol.Persists (before after : Symbol) : Prop where
  id : after.id = before.id
  projectId : after.projectId = before.projectId
  parentId : after.parentId = before.parentId
  parentKey : after.parentKey = before.parentKey
  filePath : after.filePath = before.filePath
  name : after.name = before.name
  kind : after.kind = before.kind

/-- The import is still the same one; its binding and its line may be others, and it stays resolved
once it is. -/
structure Import.Persists (before after : Import) : Prop where
  id : after.id = before.id
  projectId : after.projectId = before.projectId
  filePath : after.filePath = before.filePath
  source : after.source = before.source
  name : after.name = before.name
  resolved : before.isResolved = true → after.isResolved = true ∧ after.target = before.target

/-- The call is still the same one, and it stays resolved once it is. -/
structure Call.Persists (before after : Call) : Prop where
  id : after.id = before.id
  projectId : after.projectId = before.projectId
  filePath : after.filePath = before.filePath
  callerId : after.callerId = before.callerId
  callee : after.callee = before.callee
  line : after.line = before.line
  resolved : ∀ symbolId, before.target = some symbolId → after.target = some symbolId

theorem Symbol.Persists.refl (symbol : Symbol) : symbol.Persists symbol :=
  ⟨rfl, rfl, rfl, rfl, rfl, rfl, rfl⟩

theorem Symbol.Persists.trans {first second third : Symbol} (hfirst : first.Persists second)
    (hsecond : second.Persists third) : first.Persists third where
  id := hsecond.id.trans hfirst.id
  projectId := hsecond.projectId.trans hfirst.projectId
  parentId := hsecond.parentId.trans hfirst.parentId
  parentKey := hsecond.parentKey.trans hfirst.parentKey
  filePath := hsecond.filePath.trans hfirst.filePath
  name := hsecond.name.trans hfirst.name
  kind := hsecond.kind.trans hfirst.kind

theorem Import.Persists.refl (entry : Import) : entry.Persists entry :=
  ⟨rfl, rfl, rfl, rfl, rfl, fun hresolved ↦ ⟨hresolved, rfl⟩⟩

theorem Import.Persists.trans {first second third : Import} (hfirst : first.Persists second)
    (hsecond : second.Persists third) : first.Persists third where
  id := hsecond.id.trans hfirst.id
  projectId := hsecond.projectId.trans hfirst.projectId
  filePath := hsecond.filePath.trans hfirst.filePath
  source := hsecond.source.trans hfirst.source
  name := hsecond.name.trans hfirst.name
  resolved := by
    intro hresolved
    obtain ⟨hmiddle, htarget⟩ := hfirst.resolved hresolved
    obtain ⟨hlast, hlastTarget⟩ := hsecond.resolved hmiddle
    exact ⟨hlast, hlastTarget.trans htarget⟩

theorem Call.Persists.refl (call : Call) : call.Persists call :=
  ⟨rfl, rfl, rfl, rfl, rfl, rfl, fun _ htarget ↦ htarget⟩

theorem Call.Persists.trans {first second third : Call} (hfirst : first.Persists second)
    (hsecond : second.Persists third) : first.Persists third where
  id := hsecond.id.trans hfirst.id
  projectId := hsecond.projectId.trans hfirst.projectId
  filePath := hsecond.filePath.trans hfirst.filePath
  callerId := hsecond.callerId.trans hfirst.callerId
  callee := hsecond.callee.trans hfirst.callee
  line := hsecond.line.trans hfirst.line
  resolved := fun symbolId htarget ↦ hsecond.resolved symbolId (hfirst.resolved symbolId htarget)

/-- A symbol with another signature and span is the same symbol. -/
theorem Symbol.persists_takeOver (symbol : Symbol) (declaration : Declaration) :
    symbol.Persists (symbol.takeOver declaration) :=
  ⟨rfl, rfl, rfl, rfl, rfl, rfl, rfl⟩

/-- An import with another binding and line is the same import. -/
theorem Import.persists_takeOver (entry : Import) (mention : ImportMention) :
    entry.Persists (entry.takeOver mention) :=
  ⟨rfl, rfl, rfl, rfl, rfl, fun hresolved ↦ ⟨hresolved, rfl⟩⟩

/-- Settling an open import keeps it. -/
theorem Import.persists_settle (entry : Import) (hopen : entry.isOpen = true) (symbolId : Int) :
    entry.Persists (entry.settle symbolId) := by
  refine ⟨rfl, rfl, rfl, rfl, rfl, ?_⟩
  intro hresolved
  rw [isOpen, hresolved] at hopen
  cases hopen

/-- Settling an open call keeps it. -/
theorem Call.persists_settle (call : Call) (hopen : call.isOpen = true) (symbolId : Int) :
    call.Persists (call.settle symbolId) := by
  refine ⟨rfl, rfl, rfl, rfl, rfl, rfl, ?_⟩
  intro target htarget
  rw [isOpen, htarget] at hopen
  cases hopen

namespace Store

/-! ### Stores that grow -/

/-- Every row of the store before persists in the store after. -/
structure Grows (before after : Store) : Prop where
  projects : before.projects <+: after.projects
  symbols : TableGrows Symbol.Persists before.symbols after.symbols
  imports : TableGrows Import.Persists before.imports after.imports
  calls : TableGrows Call.Persists before.calls after.calls

theorem Grows.refl (store : Store) : store.Grows store where
  projects := List.prefix_refl _
  symbols := .refl Symbol.Persists.refl _
  imports := .refl Import.Persists.refl _
  calls := .refl Call.Persists.refl _

theorem Grows.trans (first second third : Store) (hfirst : first.Grows second)
    (hsecond : second.Grows third) : first.Grows third where
  projects := hfirst.projects.trans hsecond.projects
  symbols := hfirst.symbols.trans Symbol.Persists.trans hsecond.symbols
  imports := hfirst.imports.trans Import.Persists.trans hsecond.imports
  calls := hfirst.calls.trans Call.Persists.trans hsecond.calls

theorem hasProject_eq_true_iff {store : Store} {id : Int} :
    store.hasProject id = true ↔ ∃ project ∈ store.projects, project.id = id := by
  simp [hasProject]

theorem hasSymbol_eq_true_iff {store : Store} {id : Int} :
    store.hasSymbol id = true ↔ ∃ symbol ∈ store.symbols, symbol.id = id := by
  simp [hasSymbol]

section Grows

variable {before after : Store} (hgrows : before.Grows after)
include hgrows

theorem Grows.hasProject {id : Int} (hproject : before.hasProject id = true) :
    after.hasProject id = true := by
  obtain ⟨project, hmem, hid⟩ := hasProject_eq_true_iff.mp hproject
  exact hasProject_eq_true_iff.mpr ⟨project, hgrows.projects.subset hmem, hid⟩

theorem Grows.hasSymbol {id : Int} (hsymbol : before.hasSymbol id = true) :
    after.hasSymbol id = true := by
  obtain ⟨symbol, hmem, hid⟩ := hasSymbol_eq_true_iff.mp hsymbol
  obtain ⟨later, hlater, hpersists⟩ := hgrows.symbols.exists_mem hmem
  exact hasSymbol_eq_true_iff.mpr ⟨later, hlater, hpersists.id.trans hid⟩

/-- A project does not lose resolved imports. -/
theorem Grows.importStats_resolved_le (projectId : Int) :
    (before.importStats projectId).resolved ≤ (after.importStats projectId).resolved := by
  simp only [importStats, Ledger.stats, Ledger.imports, Import.isOpen, Bool.not_not,
    List.countP_filter]
  refine hgrows.imports.countP_le ?_
  intro entry later hpersists htest
  simp only [Bool.and_eq_true, beq_iff_eq] at htest ⊢
  exact ⟨(hpersists.resolved htest.1).1, hpersists.projectId.trans htest.2⟩

/-- A project does not lose resolved calls. -/
theorem Grows.callStats_resolved_le (projectId : Int) :
    (before.callStats projectId).resolved ≤ (after.callStats projectId).resolved := by
  simp only [callStats, Ledger.stats, Ledger.calls, Call.isOpen, List.countP_filter]
  refine hgrows.calls.countP_le ?_
  intro call later hpersists htest
  simp only [Bool.and_eq_true, beq_iff_eq, Bool.not_eq_true', Option.isNone_eq_false_iff,
    Option.isSome_iff_exists] at htest ⊢
  obtain ⟨⟨symbolId, htarget⟩, hproject⟩ := htest
  exact ⟨⟨symbolId, hpersists.resolved symbolId htarget⟩, hpersists.projectId.trans hproject⟩

end Grows

/-! ### Every write grows the store -/

theorem grows_ensureProject (name url : String) : Preserves Grows (ensureProject name url) := by
  intro store project later hrun
  rcases ensureProject_cases hrun with ⟨-, -, rfl⟩ | ⟨-, -, rfl⟩
  · exact .refl _
  · exact { Grows.refl store with projects := List.prefix_append _ _ }

theorem grows_upsertSymbol (file : FileScope) (parentId : Option Int) (declaration : Declaration) :
    Preserves Grows (upsertSymbol file parentId declaration) := by
  intro store id later hrun
  rcases upsertSymbol_cases hrun with ⟨_, _, _, _, _, rfl⟩ | ⟨_, _, _, _, rfl⟩
  · refine { Grows.refl store with symbols := .amendWhere Symbol.Persists.refl ?_ _ }
    exact fun symbol _ ↦ symbol.persists_takeOver declaration
  · exact { Grows.refl store with symbols := .append Symbol.Persists.refl _ _ }

theorem grows_upsertImport (file : FileScope) (mention : ImportMention) :
    Preserves Grows (upsertImport file mention) := by
  intro store value later hrun
  rcases upsertImport_cases hrun with ⟨_, rfl⟩ | ⟨_, _, rfl⟩
  · refine { Grows.refl store with imports := .amendWhere Import.Persists.refl ?_ _ }
    exact fun entry _ ↦ entry.persists_takeOver mention
  · exact { Grows.refl store with imports := .append Import.Persists.refl _ _ }

theorem grows_insertCall (file : FileScope) (callerId : Int) (callee : String) (line : Int) :
    Preserves Grows (insertCall file callerId callee line) := by
  intro store isNew later hrun
  rcases insertCall_cases hrun with ⟨_, _, rfl⟩ | ⟨_, _, _, _, rfl⟩
  · exact .refl _
  · exact { Grows.refl store with calls := .append Call.Persists.refl _ _ }

theorem grows_resolveImport (importId symbolId : Int) :
    Preserves Grows (Ledger.imports.resolve importId symbolId) := by
  intro store count later hrun
  rcases Ledger.resolve_cases hrun with ⟨_, _, rfl⟩ | ⟨_, _, _, rfl⟩
  · exact .refl _
  · refine { Grows.refl store with imports := .amendWhere Import.Persists.refl ?_ _ }
    intro entry hopen
    exact entry.persists_settle (Ledger.isOpenAt_eq_true_iff.mp hopen).2 symbolId

theorem grows_resolveCall (callId symbolId : Int) :
    Preserves Grows (Ledger.calls.resolve callId symbolId) := by
  intro store count later hrun
  rcases Ledger.resolve_cases hrun with ⟨_, _, rfl⟩ | ⟨_, _, _, rfl⟩
  · exact .refl _
  · refine { Grows.refl store with calls := .amendWhere Call.Persists.refl ?_ _ }
    intro call hopen
    exact call.persists_settle (Ledger.isOpenAt_eq_true_iff.mp hopen).2 symbolId

/-- Every write grows the store. -/
theorem keptByWrites_grows : KeptByWrites Grows where
  refl := Grows.refl
  trans := Grows.trans
  upsertSymbol := grows_upsertSymbol
  upsertImport := grows_upsertImport
  insertCall := grows_insertCall
  ensureProject := grows_ensureProject
  resolveImport := grows_resolveImport
  resolveCall := grows_resolveCall

end Store

end SymbolGraph
