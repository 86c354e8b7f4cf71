import SymbolGraph.Ingest.File
import SymbolGraph.Proofs.Resolution.Target
import SymbolGraph.Proofs.Store.WellFormed

/-!
# Linking a project

Linking a project in a well-formed store succeeds, whatever the size of the pages: it settles the
open imports of the project (`imports_run`) and then the open calls, as the settled imports let them
be resolved (`calls_run`, `link_run`). Symbols are looked up in the store as it was before, and no
other row is touched. Whatever the single writes preserve, linking preserves (`preserves_link`).
-/

set_option autoImplicit false
set_option relaxedAutoImplicit false

namespace SymbolGraph

open Store (Ledger Preserves)

namespace Resolution

/-- The store with the open imports of a project settled. -/
def linkedImports (store : Store) (projectId : Int) (size : Nat) : Store :=
  Ledger.imports.settleRows (within .imports projectId size (importSymbol store projectId)) store

/-- The store with the open calls of a project settled. -/
def linkedCalls (store : Store) (projectId : Int) (size : Nat) : Store :=
  Ledger.calls.settleRows (within .calls projectId size (callSymbol store projectId)) store

/-- The store with the open imports of a project settled, and then its open calls. -/
def linked (store : Store) (projectId : Int) (size : Nat) : Store :=
  linkedCalls (linkedImports store projectId size) projectId size

/-- The counts after the open imports of a project are settled. -/
def linkedImportStats (store : Store) (projectId : Int) (size : Nat) : ResolutionStats :=
  { (linkedImports store projectId size).importStats projectId with
    newlyResolved := Ledger.imports.settledCount
      (within .imports projectId size (importSymbol store projectId)) store.imports }

/-- The counts after the open calls of a project are settled. -/
def linkedCallStats (store : Store) (projectId : Int) (size : Nat) : ResolutionStats :=
  { (linkedCalls store projectId size).callStats projectId with
    newlyResolved := Ledger.calls.settledCount
      (within .calls projectId size (callSymbol store projectId)) store.calls }

/-- The counts of imports and of calls after a project is linked. -/
def linkStats (store : Store) (projectId : Int) (size : Nat) :
    ResolutionStats × ResolutionStats :=
  (linkedImportStats store projectId size,
    linkedCallStats (linkedImports store projectId size) projectId size)

/-! ### What linking preserves -/

section Preserves

variable {ρ σ : Type} {relation : Store → Store → Prop} {ledger : Ledger ρ}

theorem preserves_settlePages (hrelation : Store.IsPreorder relation)
    (hresolve : ∀ rowId symbolId, Preserves relation (ledger.resolve rowId symbolId))
    (target : Store → ρ → σ → Option Int × σ) (projectId : Int) (size pages : Nat) (after : Int)
    (memory : σ) :
    Preserves relation (settlePages ledger target projectId size pages after memory) := by
  induction pages generalizing after memory with
  | zero => exact .pure hrelation 0
  | succ pages ih =>
    unfold settlePages
    refine .bind hrelation (.get hrelation) fun store ↦ ?_
    dsimp only
    split
    · exact .pure hrelation 0
    · refine .bind hrelation (.resolveAll hrelation hresolve _) fun changed ↦ ?_
      exact .bind hrelation (ih _ _) fun others ↦ .pure hrelation _

theorem preserves_settleAll (hrelation : Store.IsPreorder relation)
    (hresolve : ∀ rowId symbolId, Preserves relation (ledger.resolve rowId symbolId))
    (target : Store → ρ → σ → Option Int × σ) (projectId : Int) (size : Nat) (memory : σ) :
    Preserves relation (settleAll ledger target projectId size memory) := by
  refine .bind hrelation (.get hrelation) fun before ↦ ?_
  refine .bind hrelation (preserves_settlePages hrelation hresolve _ _ _ _ _ _) fun changed ↦ ?_
  exact .bind hrelation (.get hrelation) fun after ↦ .pure hrelation _

theorem preserves_imports (hrelation : Store.KeptByWrites relation) (projectId : Int)
    (size : Nat) : Preserves relation (imports projectId size) :=
  preserves_settleAll hrelation.toIsPreorder hrelation.resolveImport _ _ _ _

theorem preserves_calls (hrelation : Store.KeptByWrites relation) (projectId : Int) (size : Nat) :
    Preserves relation (calls projectId size) :=
  preserves_settleAll hrelation.toIsPreorder hrelation.resolveCall _ _ _ _

/-- Linking preserves what the single writes preserve. -/
theorem preserves_link (hrelation : Store.KeptByWrites relation) (projectId : Int) (size : Nat) :
    Preserves relation (Ingest.link projectId size) := by
  have hpreorder := hrelation.toIsPreorder
  refine .bind hpreorder (preserves_imports hrelation projectId size) fun imports ↦ ?_
  refine .bind hpreorder (preserves_calls hrelation projectId size) fun calls ↦ ?_
  exact .pure hpreorder (imports, calls)

end Preserves

/-! ### What linking does -/

variable {store : Store}

/-- Resolving imports settles the open ones of the project, each with its symbol. -/
theorem imports_run (hstore : store.WellFormed) (projectId : Int) (size : Nat) :
    (imports projectId size).run store =
      .ok (linkedImportStats store projectId size, linkedImports store projectId size) := by
  have hstored : ∀ entry ∈ store.imports, Ledger.imports.isOpen entry = true →
      ∀ symbolId, importSymbol store projectId entry = some symbolId →
        store.hasSymbol symbolId = true := by
    intro entry _ _ symbolId hsymbol
    obtain ⟨symbol, hmem, hid, -⟩ := importSymbol_cases hsymbol
    exact Store.hasSymbol_eq_true_iff.mpr ⟨symbol, hmem, hid⟩
  exact settleAll_run (fun entries ↦ finds_cachedImportTarget { store with imports := entries } _)
    hstored hstore.imports.ascending hstore.imports.positive projectId size
    (NameCache.agrees_nil store projectId)

/-- The symbol of a call is stored. -/
theorem hasSymbol_of_callSymbol_eq_some (hstore : store.WellFormed) {projectId : Int} {call : Call}
    {symbolId : Int} (hsymbol : callSymbol store projectId call = some symbolId) :
    store.hasSymbol symbolId = true := by
  rcases callSymbol_cases hsymbol with ⟨name, -, symbol, hmem, hid, -⟩ |
    ⟨-, entry, hentry, -, -, -, -, htarget⟩
  · exact Store.hasSymbol_eq_true_iff.mpr ⟨symbol, hmem, hid⟩
  · exact (hstore.anchoredImports entry hentry).2 symbolId htarget

/-- What is remembered of a store tells calls what they are told in it, whatever calls it has. -/
theorem finds_cachedCallTarget (store : Store) (projectId : Int) (entries : List Call) :
    Finds (callTarget (cachedLookup (Ledger.calls.put store entries) projectId))
      (Cache.Agrees store projectId) (callSymbol store projectId) :=
  finds_callTarget (answers_cachedLookup store entries projectId)

/-- Resolving calls settles the open ones of the project, each with its symbol. -/
theorem calls_run (hstore : store.WellFormed) (projectId : Int) (size : Nat) :
    (calls projectId size).run store =
      .ok (linkedCallStats store projectId size, linkedCalls store projectId size) := by
  exact settleAll_run (finds_cachedCallTarget store projectId)
    (fun _ _ _ _ ↦ hasSymbol_of_callSymbol_eq_some hstore) hstore.calls.ascending
    hstore.calls.positive projectId size (Cache.agrees_nil store projectId)

/-- The open imports being settled is a change that the single writes make up. -/
theorem relates_linkedImports {relation : Store → Store → Prop}
    (hrelation : Store.KeptByWrites relation) (hstore : store.WellFormed) (projectId : Int)
    (size : Nat) : relation store (linkedImports store projectId size) :=
  preserves_imports hrelation projectId size _ _ _ (imports_run hstore projectId size)

/-- The open calls being settled is a change that the single writes make up. -/
theorem relates_linkedCalls {relation : Store → Store → Prop}
    (hrelation : Store.KeptByWrites relation) (hstore : store.WellFormed) (projectId : Int)
    (size : Nat) : relation store (linkedCalls store projectId size) :=
  preserves_calls hrelation projectId size _ _ _ (calls_run hstore projectId size)

theorem wellFormed_linkedImports (hstore : store.WellFormed) (projectId : Int) (size : Nat) :
    (linkedImports store projectId size).WellFormed :=
  relates_linkedImports Store.keptByWrites_wellFormed hstore projectId size hstore

/-- A linked project is a change that the single writes make up. -/
theorem relates_linked {relation : Store → Store → Prop} (hrelation : Store.KeptByWrites relation)
    (hstore : store.WellFormed) (projectId : Int) (size : Nat) :
    relation store (linked store projectId size) :=
  hrelation.trans _ _ _ (relates_linkedImports hrelation hstore projectId size)
    (relates_linkedCalls hrelation (wellFormed_linkedImports hstore projectId size) projectId size)

/-- Linking a project settles its open imports and then its open calls; it does not fail. -/
theorem link_run (hstore : store.WellFormed) (projectId : Int) (size : Nat) :
    (Ingest.link projectId size).run store =
      .ok (linkStats store projectId size, linked store projectId size) := by
  have himports := imports_run hstore projectId size
  have hcalls := calls_run (wellFormed_linkedImports hstore projectId size) projectId size
  exact Store.run_bind_eq_ok_iff.mpr ⟨_, _, himports,
    Store.run_bind_eq_ok_iff.mpr ⟨_, _, hcalls, rfl⟩⟩

/-- Linking changes nothing when nothing is found for any row. -/
theorem linked_of_forall_none {projectId : Int} {size : Nat}
    (himports : ∀ entry ∈ store.imports, importSymbol store projectId entry = none)
    (hcalls : ∀ call ∈ store.calls, callSymbol store projectId call = none) :
    linked store projectId size = store := by
  have hmiddle : linkedImports store projectId size = store :=
    @Ledger.settleRows_of_forall_none _ .imports _ _ fun entry hentry _ ↦
      ite_eq_right_iff.mpr fun _ ↦ himports entry hentry
  rw [linked, hmiddle]
  exact @Ledger.settleRows_of_forall_none _ .calls _ _ fun call hcall _ ↦
    ite_eq_right_iff.mpr fun _ ↦ hcalls call hcall

end Resolution

end SymbolGraph
