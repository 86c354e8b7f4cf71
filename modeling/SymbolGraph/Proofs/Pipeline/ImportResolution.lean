import SymbolGraph.Proofs.Pipeline.Operation
import SymbolGraph.Proofs.Resolution.Choice

/-!
# Imports are resolved to the best candidate

Resolving the imports of a project settles those open imports that may stand for a symbol, each with
the symbol of least rank, and changes nothing else (`imports_run_storeAfter`). It counts the imports
that change, and a second run, whatever the size of its pages, finds nothing more to do.
-/

set_option autoImplicit false
set_option relaxedAutoImplicit false

namespace SymbolGraph

open Store (Ledger)

/-! ### One import -/

/-- What resolving the imports of a project makes of an import. -/
structure Import.IsResolvedIn (store : Store) (projectId : Int) (before after : Import) : Prop where
  /-- Imports of other projects stay as they are, and so do imports that were resolved. -/
  kept : before.projectId ≠ projectId ∨ before.isResolved = true → after = before
  /-- An open import is resolved exactly when there is a symbol that it may stand for. -/
  resolved_iff : before.projectId = projectId → before.isResolved = false →
    (after.isResolved = true ↔ ∃ symbol, before.Admits store symbol)
  /-- An import that is resolved now is settled with the one symbol of least rank. -/
  chosen : before.isResolved = false → after.isResolved = true → ∃ symbol,
    after = before.settle symbol.id ∧ ∀ other, before.IsChoice store other ↔ other = symbol
  /-- An import that is open afterwards stays as it is. -/
  stays : after.isResolved = false → after = before

namespace Resolution

variable {store : Store} {projectId : Int} {size : Nat} {entry : Import}

/-- An import that is not to be resolved, or for which there is no symbol, stays as it is. -/
theorem isResolvedIn_self (hnone : entry.projectId = projectId → entry.isResolved = false →
    ∀ symbol, ¬entry.Admits store symbol) : entry.IsResolvedIn store projectId entry where
  kept := fun _ ↦ rfl
  resolved_iff := fun hproject hopen ↦
    iff_of_false (hopen ▸ Bool.false_ne_true) (not_exists.mpr (hnone hproject hopen))
  chosen := fun hopen hresolved ↦ absurd (hopen.symm.trans hresolved) Bool.false_ne_true
  stays := fun _ ↦ rfl

/-- Settling an open import with the symbol of least rank is resolving it. -/
theorem isResolvedIn_settle (hstore : store.WellFormed) (hproject : entry.projectId = projectId)
    (hopen : entry.isResolved = false) {symbol : Symbol} (hchoice : entry.IsChoice store symbol) :
    entry.IsResolvedIn store projectId (entry.settle symbol.id) where
  kept := by
    rintro (hother | hresolved)
    · exact absurd hproject hother
    · exact absurd (hopen.symm.trans hresolved) Bool.false_ne_true
  resolved_iff := fun _ _ ↦ iff_of_true rfl ⟨symbol, hchoice.admits⟩
  chosen := by
    refine fun _ _ ↦ ⟨symbol, rfl, fun other ↦ ⟨fun hother ↦ hother.eq hstore hchoice, ?_⟩⟩
    rintro rfl
    exact hchoice
  stays := fun hstill ↦ nomatch hstill

/-- Settling an import with what is found for it is resolving it. -/
theorem isResolvedIn_settleWith (hstore : store.WellFormed) (hsize : 0 < size) (entry : Import) :
    entry.IsResolvedIn store projectId
      (Ledger.imports.settleWith (within .imports projectId size (importSymbol store projectId))
        entry) := by
  by_cases hproject : entry.projectId = projectId
  · subst hproject
    have hfound : within .imports entry.projectId size (importSymbol store entry.projectId) entry =
        importSymbol store entry.projectId entry := if_pos ⟨rfl, hsize⟩
    cases hresolved : entry.isResolved with
    | true =>
      have hclosed : Ledger.imports.isOpen entry = false := by
        simp [hresolved]
      rw [Ledger.settleWith_of_closed hclosed]
      exact isResolvedIn_self fun _ hopen ↦ absurd (hopen.symm.trans hresolved) Bool.false_ne_true
    | false =>
      have hopen : Ledger.imports.isOpen entry = true := by
        simp [hresolved]
      cases hsymbol : importSymbol store entry.projectId entry with
      | none =>
        rw [Ledger.settleWith_of_none (hfound.trans hsymbol)]
        exact isResolvedIn_self fun _ _ ↦ not_admits_of_importSymbol hsymbol
      | some symbolId =>
        obtain ⟨symbol, hchoice, rfl⟩ := exists_isChoice_of_importSymbol hsymbol
        rw [Ledger.settleWith_of_some hopen (hfound.trans hsymbol)]
        exact isResolvedIn_settle hstore rfl hresolved hchoice
  · have hnone : within .imports projectId size (importSymbol store projectId) entry = none :=
      if_neg fun hwithin ↦ hproject hwithin.1
    rw [Ledger.settleWith_of_none hnone]
    exact isResolvedIn_self fun hsame ↦ absurd hsame hproject

/-! ### The run -/

/-- Nothing is found for the imports that are open after a run, whatever the size of the pages. -/
theorem within_eq_none_of_open (hsize : 0 < size) (again : Nat) :
    ∀ entry ∈ (linkedImports store projectId size).imports, Ledger.imports.isOpen entry = true →
      within .imports projectId again (importSymbol (linkedImports store projectId size) projectId)
        entry = none := by
  intro entry hentry hopen
  have hnone := Ledger.eq_none_of_isOpen_settleRows
    (show entry ∈ Ledger.imports.rows (linkedImports store projectId size) from hentry) hopen
  by_cases hproject : entry.projectId = projectId
  · have hsymbol : importSymbol store projectId entry = none := by
      rwa [within, if_pos ⟨hproject, hsize⟩] at hnone
    unfold within
    split
    · -- resolving imports leaves symbols alone
      exact hsymbol
    · rfl
  · exact if_neg fun hwithin ↦ hproject hwithin.1

/-- A second run changes nothing, whatever the size of its pages. -/
theorem imports_run_linkedImports (hstore : store.WellFormed) (hsize : 0 < size) (again : Nat) :
    (imports projectId again).run (linkedImports store projectId size) =
      .ok ({ linkedImportStats store projectId size with newlyResolved := 0 },
        linkedImports store projectId size) := by
  have hnone : ∀ entry ∈ Ledger.imports.rows (linkedImports store projectId size),
      Ledger.imports.isOpen entry = true → within .imports projectId again
        (importSymbol (linkedImports store projectId size) projectId) entry = none :=
    within_eq_none_of_open hsize again
  have hsame : linkedImports (linkedImports store projectId size) projectId again =
      linkedImports store projectId size :=
    Ledger.settleRows_of_forall_none hnone
  have hcount := Ledger.settledCount_of_forall_none hnone
  rw [imports_run (wellFormed_linkedImports hstore projectId size), linkedImportStats, hsame]
  exact congrArg (fun count ↦ Except.ok (({ Store.importStats _ projectId with
    newlyResolved := count } : ResolutionStats), _)) hcount

end Resolution

/-- In every store that operations reach, resolving the imports of a project succeeds and changes
only imports. An open import of the project is resolved when a symbol of the project and its name
lies in a file that it may be taken from, and it is settled with the symbol of least rank; other
imports stay as they are. The imports that change are counted, and a second run changes nothing. Of
the files that match one candidate, the candidate itself comes first. -/
theorem imports_run_storeAfter (operations : List Operation) (projectId : Int) {size : Nat}
    (hsize : 0 < size) :
    let store := storeAfter operations
    ∃ stats settled,
      (Resolution.imports projectId size).run store = .ok (stats, settled) ∧
      settled = { store with imports := settled.imports } ∧
      List.Forall₂ (Import.IsResolvedIn store projectId) store.imports settled.imports ∧
      stats = { settled.importStats projectId with
        newlyResolved := (store.imports.zip settled.imports).countP fun pair ↦ pair.1 ≠ pair.2 } ∧
      (∀ again, (Resolution.imports projectId again).run settled =
        .ok ({ stats with newlyResolved := 0 }, settled)) ∧
      ∀ (entry : Import) (symbol other : Symbol),
        entry.IsChoice store symbol → entry.Admits store other →
        entry.candidates[entry.candidateIndex symbol.filePath]? = some other.filePath →
        symbol.filePath = other.filePath := by
  intro store
  have hstore : store.WellFormed := wellFormed_storeAfter operations
  refine ⟨_, _, Resolution.imports_run hstore projectId size, rfl, ?_, ?_, fun again ↦ ?_,
    fun entry symbol other ↦ Import.IsChoice.filePath_eq⟩
  · exact List.forall₂_map_right_iff.mpr
      (List.forall₂_same.mpr fun entry _ ↦ Resolution.isResolvedIn_settleWith hstore hsize entry)
  · exact congrArg (fun count ↦ ({ Store.importStats _ projectId with
      newlyResolved := count } : ResolutionStats)) (Ledger.settledCount_eq_countP_ne _)
  · exact Resolution.imports_run_linkedImports hstore hsize again

/-- A file that imports from one that is missing and from one that is there. -/
def twoSources : List Operation :=
  [.ensureProject "demo" "file:///demo",
    .ingestFile 1 "lib.py" "def helper():\n    pass\n",
    .ingestFile 1 "app.py" "from gone import nothing\nfrom lib import helper\n"]

/-- One import a page, the run gets past the import that stays open and resolves the other one, and
running again changes nothing. -/
theorem imports_run_twoSources :
    let settled := { storeAfter twoSources with
      imports := [⟨1, 1, "app.py", "gone", "nothing", none, 1, none, false⟩,
        ⟨2, 1, "app.py", "lib", "helper", none, 2, some 2, true⟩] }
    (Resolution.imports 1 1).run (storeAfter twoSources) = .ok (⟨2, 1, 1⟩, settled) ∧
      ∀ again, (Resolution.imports 1 again).run settled = .ok (⟨2, 1, 0⟩, settled) := by
  intro settled
  have hstats : Resolution.linkedImportStats (storeAfter twoSources) 1 1 = ⟨2, 1, 1⟩ := by
    decide +kernel
  have hsettled : Resolution.linkedImports (storeAfter twoSources) 1 1 = settled := by
    decide +kernel
  have hvalue : (Resolution.imports 1 1).run (storeAfter twoSources) =
      .ok (⟨2, 1, 1⟩, settled) := by
    rw [Resolution.imports_run (wellFormed_storeAfter twoSources), hstats, hsettled]
  obtain ⟨stats, final, hrun, -, -, -, hagain, -⟩ :=
    imports_run_storeAfter twoSources 1 Nat.zero_lt_one
  obtain ⟨rfl, rfl⟩ := Prod.mk.inj (Except.ok.inj (hvalue.symm.trans hrun))
  exact ⟨hvalue, hagain⟩

end SymbolGraph
