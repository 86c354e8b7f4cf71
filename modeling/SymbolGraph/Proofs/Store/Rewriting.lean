import SymbolGraph.Proofs.Store.WellFormed

/-!
# Tables that are written again

Writing a row again overwrites some of its columns, its details, and leaves its id and its key
(`Columns`). When the same rows are written a second time, over what the first time led to, every
row has at any moment either the details it ended with at the first time, because its turn has not
come again, or those that it had at the same moment of the first time (`Columns.Repeats`). So a row
that is written several times with different details goes through them once more, and ends as it was
(`Columns.Repeats.eq_final`).
-/

set_option autoImplicit false
set_option relaxedAutoImplicit false

namespace SymbolGraph

theorem Symbol.Persists.key {before after : Symbol} (hpersists : before.Persists after) :
    after.key = before.key := by
  rw [Symbol.key, Symbol.key, hpersists.projectId, hpersists.filePath, hpersists.parentKey,
    hpersists.name]

theorem Import.Persists.key {before after : Import} (hpersists : before.Persists after) :
    after.key = before.key := by
  rw [Import.key, Import.key, hpersists.projectId, hpersists.filePath, hpersists.source,
    hpersists.name]

theorem Call.Persists.key {before after : Call} (hpersists : before.Persists after) :
    after.key = before.key := by
  rw [Call.key, Call.key, hpersists.projectId, hpersists.callerId, hpersists.callee,
    hpersists.line]

namespace Store

/-- Rows with an id and a key, and with details that writing a row again overwrites. -/
structure Columns (α κ δ : Type) where
  id : α → Int
  key : α → κ
  details : α → δ
  rewrite : α → δ → α
  id_rewrite : ∀ row details, id (rewrite row details) = id row
  key_rewrite : ∀ row details, key (rewrite row details) = key row
  rewrite_details : ∀ row, rewrite row (details row) = row
  rewrite_rewrite : ∀ row first second, rewrite (rewrite row first) second = rewrite row second

namespace Columns

/-- A symbol is written again with its signature and its span. -/
def symbols : Columns Symbol (Int × String × Int × String) (Option String × Span) where
  id := Symbol.id
  key := Symbol.key
  details := fun symbol ↦ (symbol.signature, symbol.span)
  rewrite := fun symbol details ↦ { symbol with signature := details.1, span := details.2 }
  id_rewrite := fun _ _ ↦ rfl
  key_rewrite := fun _ _ ↦ rfl
  rewrite_details := fun _ ↦ rfl
  rewrite_rewrite := fun _ _ _ ↦ rfl

/-- An import is written again with its binding and its line. -/
def imports : Columns Import (Int × String × String × String) (Option String × Int) where
  id := Import.id
  key := Import.key
  details := fun entry ↦ (entry.binding, entry.line)
  rewrite := fun entry details ↦ { entry with binding := details.1, line := details.2 }
  id_rewrite := fun _ _ ↦ rfl
  key_rewrite := fun _ _ ↦ rfl
  rewrite_details := fun _ ↦ rfl
  rewrite_rewrite := fun _ _ _ ↦ rfl

variable {α κ δ : Type} {columns : Columns α κ δ} {final earlier later again : List α}

/-- Every row is in the final table, under its id and its key. -/
def Within (columns : Columns α κ δ) (final rows : List α) : Prop :=
  ∀ row ∈ rows, ∃ last ∈ final,
    columns.id last = columns.id row ∧ columns.key last = columns.key row

/-- The rows are those of the final table, each with its final details or with those of the row of
its id in the earlier table. -/
def Repeats (columns : Columns α κ δ) (final earlier again : List α) : Prop :=
  ∃ source : α → α,
    (∀ last ∈ final, source last = last ∨
      source last ∈ earlier ∧ columns.id (source last) = columns.id last) ∧
    again = final.map fun last ↦ columns.rewrite last (columns.details (source last))

/-- Nothing has been written again yet. -/
theorem Repeats.refl (columns : Columns α κ δ) (final earlier : List α) :
    columns.Repeats final earlier final := by
  refine ⟨fun last ↦ last, fun _ _ ↦ Or.inl rfl, ?_⟩
  refine (List.map_id final).symm.trans (List.map_congr_left fun last _ ↦ ?_)
  exact (columns.rewrite_details last).symm

/-- When the earlier table has the final details, the final table is back. -/
theorem Repeats.eq_final (hrepeats : columns.Repeats final earlier again)
    (hdetails : ∀ row ∈ earlier, ∀ last ∈ final, columns.id row = columns.id last →
      columns.details row = columns.details last) : again = final := by
  obtain ⟨source, hsource, rfl⟩ := hrepeats
  refine (List.map_congr_left fun last hlast ↦ ?_).trans (List.map_id final)
  have hsame : columns.details (source last) = columns.details last := by
    rcases hsource last hlast with hlater | ⟨hmem, hid⟩
    · rw [hlater]
    · exact hdetails _ hmem last hlast hid
  rw [hsame, columns.rewrite_details]
  rfl

section Keyed

variable (hfinal : KeyedTable columns.id columns.key final)
  (hrepeats : columns.Repeats final earlier again) {key : κ} {test : α → Bool}
  (htest : ∀ row, test row = true ↔ columns.key row = key)
include hfinal hrepeats htest

/-- The row of a key is found in the place that it has in the final table. -/
theorem Repeats.exists_find? {last : α} (hlast : last ∈ final) (hkey : columns.key last = key) :
    ∃ details, again.find? test = some (columns.rewrite last details) := by
  obtain ⟨source, -, rfl⟩ := hrepeats
  cases hfound : (final.map fun last ↦
      columns.rewrite last (columns.details (source last))).find? test with
  | none =>
    have hmissing := List.find?_eq_none.mp hfound _ (List.mem_map_of_mem hlast)
    rw [htest, columns.key_rewrite] at hmissing
    exact absurd hkey hmissing
  | some row =>
    obtain ⟨other, hother, rfl⟩ := List.mem_map.mp (List.mem_of_find?_eq_some hfound)
    have hotherKey := (htest _).mp (List.find?_some hfound)
    rw [columns.key_rewrite] at hotherKey
    obtain rfl := hfinal.eq_of_key_eq hother hlast (hotherKey.trans hkey.symm)
    exact ⟨_, rfl⟩

/-- Writing the same row both times keeps the tables in step. -/
theorem Repeats.write [DecidableEq κ] (hearlier : columns.Within final earlier)
    (hlater : columns.Within final later)
    (hrest : ∀ row ∈ earlier, columns.key row ≠ key → row ∈ later) {written : α}
    (hwritten : written ∈ later) (hkey : columns.key written = key) :
    columns.Repeats final later
      (amendWhere test (columns.rewrite · (columns.details written)) again) := by
  obtain ⟨source, hsource, rfl⟩ := hrepeats
  refine ⟨fun last ↦ if columns.key last = key then written else source last, ?_, ?_⟩
  · intro last hlast
    dsimp only
    split
    · rename_i hlastKey
      obtain ⟨other, hother, hid, hotherKey⟩ := hlater written hwritten
      obtain rfl := hfinal.eq_of_key_eq hother hlast (hotherKey.trans (hkey.trans hlastKey.symm))
      exact Or.inr ⟨hwritten, hid.symm⟩
    · rename_i hlastKey
      refine (hsource last hlast).imp_right fun ⟨hmem, hid⟩ ↦ ⟨?_, hid⟩
      obtain ⟨other, hother, hotherId, hotherKey⟩ := hearlier _ hmem
      obtain rfl := hfinal.eq_of_id_eq hother hlast (hotherId.trans hid)
      exact hrest _ hmem fun hsame ↦ hlastKey (hotherKey.trans hsame)
  · rw [amendWhere, List.map_map]
    refine List.map_congr_left fun last _ ↦ ?_
    dsimp only [Function.comp_apply]
    by_cases hlastKey : columns.key last = key
    · rw [if_pos ((htest _).mpr ((columns.key_rewrite _ _).trans hlastKey)), if_pos hlastKey,
        columns.rewrite_rewrite]
    · rw [if_neg fun hpasses ↦ hlastKey ((columns.key_rewrite _ _).symm.trans
        ((htest _).mp hpasses)), if_neg hlastKey]

end Keyed

end Columns

end Store

end SymbolGraph
