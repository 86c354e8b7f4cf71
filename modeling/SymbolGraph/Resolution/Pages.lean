import SymbolGraph.Store.Query
import SymbolGraph.Store.Write

/-!
# Resolving a table page by page

The open rows of a project are resolved in pages, in id order (`settlePages`). What a row is
resolved to is found in the store of its page by means of a memory that the whole run shares
(`targetPairs`). `settleAll` runs through all pages and counts.
-/

set_option autoImplicit false

namespace SymbolGraph.Resolution

variable {ρ σ : Type}

/-- The pairs of row and symbol for a page of rows, those without a symbol left out. -/
def targetPairs (id : ρ → Int) (target : ρ → σ → Option Int × σ) :
    List ρ → σ → List (Int × Int) × σ
  | [], memory => ([], memory)
  | row :: rest, memory =>
    let (found, next) := target row memory
    let (pairs, last) := targetPairs id target rest next
    match found with
    | some symbolId => ((id row, symbolId) :: pairs, last)
    | none => (pairs, last)

/-- Settles the pages of open rows after an id, at most `pages` of them, and adds up how many rows
changed. -/
def settlePages (ledger : Store.Ledger ρ) (target : Store → ρ → σ → Option Int × σ)
    (projectId : Int) (size : Nat) : Nat → Int → σ → Store.Change Nat
  | 0, _, _ => pure 0
  | pages + 1, after, memory => do
    let store ← get
    let page := ledger.openRows store projectId after size
    match page.getLast? with
    | none => pure 0
    | some last => do
      let (pairs, later) := targetPairs ledger.id (target store) page memory
      let changed ← ledger.resolveAll pairs
      let others ← settlePages ledger target projectId size pages (ledger.id last) later
      pure (changed + others)

/-- Settles the open rows of a project, `size` of them at a time. -/
def settleAll (ledger : Store.Ledger ρ) (target : Store → ρ → σ → Option Int × σ)
    (projectId : Int) (size : Nat) (memory : σ) : Store.Change ResolutionStats := do
  let before ← get
  let pages := (ledger.rows before).length + 1
  let newlyResolved ← settlePages ledger target projectId size pages 0 memory
  let after ← get
  pure { ledger.stats after projectId with newlyResolved }

end SymbolGraph.Resolution
