import SymbolGraph.Proofs.Pipeline.Operation

/-!
# Keys and references

In every store that operations reach, whatever they write and however they end, the rows can be
told apart and lead to one another (`hasIntegrity_storeAfter`). Ids and natural keys name single
rows, and every id that is stored in another row is that of an existing one. The natural key of a
symbol has its parent or the absence of one, which is never confused with a parent: the number that
stands for it is not an id.
-/

set_option autoImplicit false
set_option relaxedAutoImplicit false

namespace SymbolGraph

namespace Store

/-- The values that a column has in the rows of a table are all different. -/
def IsUnique {α κ : Type} (column : α → κ) (rows : List α) : Prop :=
  (rows.map column).Nodup

/-- The ids of a table are different numbers from one on. -/
def HasIds {α : Type} (id : α → Int) (rows : List α) : Prop :=
  IsUnique id rows ∧ ∀ row ∈ rows, 1 ≤ id row

/-- A row of a table has the id. -/
def IsStored {α : Type} (id : α → Int) (rows : List α) (wanted : Int) : Prop :=
  ∃ row ∈ rows, id row = wanted

/-- Rows have ids and keys of their own, and what they refer to is stored. -/
structure HasIntegrity (store : Store) : Prop where
  projectIds : HasIds Project.id store.projects
  symbolIds : HasIds Symbol.id store.symbols
  importIds : HasIds Import.id store.imports
  callIds : HasIds Call.id store.calls
  projectKeys : IsUnique Project.url store.projects
  symbolKeys : IsUnique
    (fun symbol : Symbol ↦ (symbol.projectId, symbol.filePath, symbol.parentId, symbol.name))
    store.symbols
  importKeys : IsUnique
    (fun entry : Import ↦ (entry.projectId, entry.filePath, entry.source, entry.name))
    store.imports
  callKeys : IsUnique
    (fun call : Call ↦ (call.projectId, call.callerId, call.callee, call.line)) store.calls
  parentKey : ∀ symbol ∈ store.symbols, symbol.parentKey = 0 ↔ symbol.parentId = none
  symbolReferences : ∀ symbol ∈ store.symbols,
    IsStored Project.id store.projects symbol.projectId ∧
    ∀ parentId, symbol.parentId = some parentId → IsStored Symbol.id store.symbols parentId
  importReferences : ∀ entry ∈ store.imports,
    IsStored Project.id store.projects entry.projectId ∧
    ∀ symbolId, entry.target = some symbolId → IsStored Symbol.id store.symbols symbolId
  callReferences : ∀ call ∈ store.calls,
    IsStored Project.id store.projects call.projectId ∧
    IsStored Symbol.id store.symbols call.callerId ∧
    ∀ symbolId, call.target = some symbolId → IsStored Symbol.id store.symbols symbolId
  /-- Inside one file, a symbol has at most one child of a name. -/
  children : ∀ first ∈ store.symbols, ∀ second ∈ store.symbols, ∀ parentId,
    first.projectId = second.projectId → first.filePath = second.filePath →
    first.parentId = some parentId → second.parentId = some parentId →
    first.name = second.name → first = second

theorem KeyedTable.hasIds {α κ : Type} {id : α → Int} {key : α → κ} {rows : List α}
    (htable : KeyedTable id key rows) : HasIds id rows :=
  ⟨htable.nodup_ids, htable.positive⟩

namespace WellFormed

variable {store : Store} (hstore : store.WellFormed)
include hstore

theorem parentKey_eq_zero_iff {symbol : Symbol} (hsymbol : symbol ∈ store.symbols) :
    symbol.parentKey = 0 ↔ symbol.parentId = none := by
  rw [hstore.parentKey symbol hsymbol]
  cases hparent : symbol.parentId with
  | none => simp
  | some parentId =>
    have hpositive := hstore.one_le_parentId hsymbol hparent
    simp only [Option.getD_some, reduceCtorEq, iff_false]
    omega

/-- The key of a symbol tells its project, its file, its parent and its name, and nothing else. -/
theorem eq_of_place_eq {first second : Symbol} (hfirst : first ∈ store.symbols)
    (hsecond : second ∈ store.symbols) (hproject : first.projectId = second.projectId)
    (hfile : first.filePath = second.filePath) (hparent : first.parentId = second.parentId)
    (hname : first.name = second.name) : first = second := by
  refine hstore.symbols.eq_of_key_eq hfirst hsecond ?_
  have hkey : first.parentKey = second.parentKey := by
    rw [hstore.parentKey first hfirst, hstore.parentKey second hsecond, hparent]
  rw [Symbol.key, Symbol.key, hproject, hfile, hkey, hname]

/-- A well-formed store has ids and keys that name single rows, and references that lead to rows. -/
theorem hasIntegrity : store.HasIntegrity where
  projectIds := hstore.projects.hasIds
  symbolIds := hstore.symbols.hasIds
  importIds := hstore.imports.hasIds
  callIds := hstore.calls.hasIds
  projectKeys := hstore.projects.keys
  symbolKeys := by
    refine List.Nodup.map_on ?_ hstore.symbols.nodup
    intro first hfirst second hsecond heq
    simp only [Prod.mk.injEq] at heq
    obtain ⟨hproject, hfile, hparent, hname⟩ := heq
    exact hstore.eq_of_place_eq hfirst hsecond hproject hfile hparent hname
  importKeys := hstore.imports.keys
  callKeys := hstore.calls.keys
  parentKey := fun symbol hsymbol ↦ hstore.parentKey_eq_zero_iff hsymbol
  symbolReferences := by
    intro symbol hsymbol
    obtain ⟨hproject, hparent⟩ := hstore.anchoredSymbols symbol hsymbol
    exact ⟨hasProject_eq_true_iff.mp hproject, fun parentId hsome ↦
      hasSymbol_eq_true_iff.mp (hparent parentId hsome)⟩
  importReferences := by
    intro entry hentry
    obtain ⟨hproject, htarget⟩ := hstore.anchoredImports entry hentry
    exact ⟨hasProject_eq_true_iff.mp hproject, fun symbolId hsome ↦
      hasSymbol_eq_true_iff.mp (htarget symbolId hsome)⟩
  callReferences := by
    intro call hcall
    obtain ⟨hproject, hcaller, htarget⟩ := hstore.anchoredCalls call hcall
    exact ⟨hasProject_eq_true_iff.mp hproject, hasSymbol_eq_true_iff.mp hcaller,
      fun symbolId hsome ↦ hasSymbol_eq_true_iff.mp (htarget symbolId hsome)⟩
  children := by
    intro first hfirst second hsecond parentId hproject hfile hfirstParent hsecondParent hname
    exact hstore.eq_of_place_eq hfirst hsecond hproject hfile
      (hfirstParent.trans hsecondParent.symm) hname

end WellFormed

end Store

/-- In every store that operations reach, among them transactions that write anything or give up and
resolutions of any ids to any ids, ids and natural keys name single rows, the parent key is zero
exactly for symbols without a parent, and every stored id of another row is that of an existing
one. -/
theorem hasIntegrity_storeAfter (operations : List Operation) :
    (storeAfter operations).HasIntegrity :=
  (wellFormed_storeAfter operations).hasIntegrity

end SymbolGraph
