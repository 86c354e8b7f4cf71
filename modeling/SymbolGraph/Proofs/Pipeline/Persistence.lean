import SymbolGraph.Proofs.Pipeline.Operation

/-!
# Rows persist

No operation takes a row away, and none changes what a row was written as: whatever operations
follow, a row is found again under its id (`RowsPersist`), and what is resolved stays resolved to
the same symbol (`rows_persist_through_operations`).
-/

set_option autoImplicit false
set_option relaxedAutoImplicit false

namespace SymbolGraph

/-- Every row of the table before persists as the one row afterwards that has its id. -/
def RowsPersist {α : Type} (id : α → Int) (persists : α → α → Prop) (before after : List α) :
    Prop :=
  ∀ row ∈ before, ∃ kept ∈ after, persists row kept ∧
    ∀ other ∈ after, id other = id row → other = kept

/-- The rows of a table that grew persist in it when ids name single rows. -/
theorem rowsPersist_of_tableGrows {α κ : Type} {id : α → Int} {key : α → κ}
    {persists : α → α → Prop} (hid : ∀ row kept, persists row kept → id kept = id row)
    {before after : List α} (hgrows : Store.TableGrows persists before after)
    (hafter : Store.KeyedTable id key after) : RowsPersist id persists before after := by
  intro row hrow
  obtain ⟨kept, hkept, hpersists⟩ := hgrows.exists_mem hrow
  refine ⟨kept, hkept, hpersists, fun other hother hsame ↦ ?_⟩
  exact hafter.eq_of_id_eq hother hkept (hsame.trans (hid row kept hpersists).symm)

/-- In every store that operations reach, and through every further sequence of operations, symbols
keep their id, project, parent, file, name and kind, imports their id, project, file, source and
name, calls all but their resolution, and what is resolved stays resolved to the same symbol. So no
project ever has fewer resolved imports or calls. -/
theorem rows_persist_through_operations (earlier later : List Operation) :
    let before := storeAfter earlier
    let after := Operation.runAll later before
    RowsPersist Symbol.id Symbol.Persists before.symbols after.symbols ∧
      RowsPersist Import.id Import.Persists before.imports after.imports ∧
      RowsPersist Call.id Call.Persists before.calls after.calls ∧
      ∀ projectId,
        (before.importStats projectId).resolved ≤ (after.importStats projectId).resolved ∧
        (before.callStats projectId).resolved ≤ (after.callStats projectId).resolved := by
  intro before after
  have hgrows : before.Grows after := Store.keptByWrites_grows.runAll later before
  have hafter : after.WellFormed := by
    have hreached := wellFormed_storeAfter (earlier ++ later)
    rwa [storeAfter_append] at hreached
  refine ⟨?_, ?_, ?_, fun projectId ↦ ⟨?_, ?_⟩⟩
  · exact rowsPersist_of_tableGrows (fun _ _ hpersists ↦ hpersists.id) hgrows.symbols hafter.symbols
  · exact rowsPersist_of_tableGrows (fun _ _ hpersists ↦ hpersists.id) hgrows.imports hafter.imports
  · exact rowsPersist_of_tableGrows (fun _ _ hpersists ↦ hpersists.id) hgrows.calls hafter.calls
  · exact hgrows.importStats_resolved_le projectId
  · exact hgrows.callStats_resolved_le projectId

end SymbolGraph
