import SymbolGraph.Store.Basic

/-!
# Tables whose rows are resolved

Imports and calls are stored open and resolved later, each to the symbol it stands for. A `Ledger`
is one of the two tables: it tells which rows are open, and how a row is settled with a symbol. What
a ledger promises about its parts is part of it, so that both tables are resolved, paged through and
counted by the same definitions.
-/

set_option autoImplicit false

namespace SymbolGraph

/-- The import has not been resolved. -/
def Import.isOpen (entry : Import) : Bool :=
  !entry.isResolved

/-- The import resolved to a symbol. -/
def Import.settle (entry : Import) (symbolId : Int) : Import :=
  { entry with target := some symbolId, isResolved := true }

/-- The call has not been resolved. -/
def Call.isOpen (call : Call) : Bool :=
  call.target.isNone

/-- The call resolved to a symbol. -/
def Call.settle (call : Call) (symbolId : Int) : Call :=
  { call with target := some symbolId }

namespace Store

/-- A table of the store whose rows are settled with symbols. -/
structure Ledger (ρ : Type) where
  rows : Store → List ρ
  /-- The store with other rows in this table. -/
  put : Store → List ρ → Store
  id : ρ → Int
  projectId : ρ → Int
  isOpen : ρ → Bool
  settle : ρ → Int → ρ
  rows_put : ∀ store entries, rows (put store entries) = entries
  put_rows : ∀ store, put store (rows store) = store
  put_put : ∀ store entries others, put (put store entries) others = put store others
  symbols_put : ∀ store entries, (put store entries).symbols = store.symbols
  id_settle : ∀ row symbolId, id (settle row symbolId) = id row
  projectId_settle : ∀ row symbolId, projectId (settle row symbolId) = projectId row
  isOpen_settle : ∀ row symbolId, isOpen (settle row symbolId) = false

namespace Ledger

/-- The table of imports. -/
def imports : Ledger Import where
  rows := Store.imports
  put := fun store entries ↦ { store with imports := entries }
  id := Import.id
  projectId := Import.projectId
  isOpen := Import.isOpen
  settle := Import.settle
  rows_put := fun _ _ ↦ rfl
  put_rows := fun _ ↦ rfl
  put_put := fun _ _ _ ↦ rfl
  symbols_put := fun _ _ ↦ rfl
  id_settle := fun _ _ ↦ rfl
  projectId_settle := fun _ _ ↦ rfl
  isOpen_settle := fun _ _ ↦ rfl

/-- The table of calls. -/
def calls : Ledger Call where
  rows := Store.calls
  put := fun store entries ↦ { store with calls := entries }
  id := Call.id
  projectId := Call.projectId
  isOpen := Call.isOpen
  settle := Call.settle
  rows_put := fun _ _ ↦ rfl
  put_rows := fun _ ↦ rfl
  put_put := fun _ _ _ ↦ rfl
  symbols_put := fun _ _ ↦ rfl
  id_settle := fun _ _ ↦ rfl
  projectId_settle := fun _ _ ↦ rfl
  isOpen_settle := fun _ _ ↦ rfl

variable {ρ : Type} (ledger : Ledger ρ)

/-- The row has the id and is open. -/
def isOpenAt (id : Int) (row : ρ) : Bool :=
  ledger.id row == id && ledger.isOpen row

/-- The row is open and belongs to the project. -/
def isOpenIn (projectId : Int) (row : ρ) : Bool :=
  ledger.projectId row == projectId && ledger.isOpen row

/-- The first `limit` open rows of a project with an id above `after`, in id order. -/
def openRows (store : Store) (projectId after : Int) (limit : Nat) : List ρ :=
  ((ledger.rows store).filter fun row ↦
    ledger.isOpenIn projectId row && after < ledger.id row).take limit

end Ledger

end Store

end SymbolGraph
