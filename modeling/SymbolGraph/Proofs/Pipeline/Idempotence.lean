import SymbolGraph.Proofs.Ingest.Repetition
import SymbolGraph.Proofs.Pipeline.Run

/-!
# Running twice is running once

A run over files that is repeated leaves every row of the store as it was (`run_run_storeAfter`).
Each file comes to the same counts again, but for calls, none of which is new, or fails with the
same error; and the link resolves nothing, because the first one settled all that can be settled
(`linked_linked`). When the project is not stored, all files fail and neither run does anything.
-/

set_option autoImplicit false
set_option relaxedAutoImplicit false

namespace SymbolGraph

open Store (Ledger Repeats)

/-! ### Linking again -/

namespace Resolution

variable {store : Store} {projectId : Int} {size : Nat}

/-- No symbol is found for an import that is open after the project is linked. -/
theorem importSymbol_eq_none_of_open {entry : Import} (hopen : Ledger.imports.isOpen entry = true)
    (hentry : entry ∈ (linked store projectId size).imports) :
    within .imports projectId size (importSymbol (linked store projectId size) projectId) entry =
      none :=
  -- linking leaves symbols alone, and calls do not matter to imports
  Ledger.eq_none_of_isOpen_settleRows
    (show entry ∈ Ledger.imports.rows (linkedImports store projectId size) from hentry) hopen

/-- No symbol is found for a call that is open after the project is linked. -/
theorem callSymbol_eq_none_of_isOpen {call : Call} (hopen : Ledger.calls.isOpen call = true)
    (hcall : call ∈ (linked store projectId size).calls) :
    within .calls projectId size (callSymbol (linked store projectId size) projectId) call = none :=
  Ledger.eq_none_of_isOpen_settleRows
    (show call ∈ Ledger.calls.rows (linkedCalls (linkedImports store projectId size) projectId size)
      from hcall) hopen

theorem linkedImports_linked : linkedImports (linked store projectId size) projectId size =
    linked store projectId size :=
  Ledger.settleRows_of_forall_none fun _ hentry hopen ↦ importSymbol_eq_none_of_open hopen hentry

/-- A linked project has nothing left to link. -/
theorem linked_linked :
    linked (linked store projectId size) projectId size = linked store projectId size := by
  rw [linked, linkedImports_linked]
  exact Ledger.settleRows_of_forall_none fun _ hcall hopen ↦
    callSymbol_eq_none_of_isOpen hopen hcall

/-- Linking a linked project resolves nothing. -/
theorem newlyResolved_linkStats_linked :
    (linkStats (linked store projectId size) projectId size).1.newlyResolved = 0 ∧
      (linkStats (linked store projectId size) projectId size).2.newlyResolved = 0 := by
  constructor
  · exact Ledger.settledCount_of_forall_none fun _ hentry hopen ↦
      importSymbol_eq_none_of_open hopen hentry
  · rw [linkStats, linkedImports_linked]
    exact Ledger.settledCount_of_forall_none fun _ hcall hopen ↦
      callSymbol_eq_none_of_isOpen hopen hcall

/-- In an unknown project there is nothing to link. -/
theorem linked_of_unknown (hstore : store.WellFormed)
    (hunknown : store.hasProject projectId = false) (size : Nat) :
    linked store projectId size = store := by
  have himports : linkedImports store projectId size = store := by
    refine Ledger.settleRows_of_forall_none fun entry hentry _ ↦ if_neg fun hwithin ↦ ?_
    have hproject := (hstore.anchoredImports entry hentry).1
    rw [show entry.projectId = projectId from hwithin.1, hunknown] at hproject
    cases hproject
  rw [linked, himports]
  refine Ledger.settleRows_of_forall_none fun call hcall _ ↦ if_neg fun hwithin ↦ ?_
  have hproject := (hstore.anchoredCalls call hcall).1
  rw [show call.projectId = projectId from hwithin.1, hunknown] at hproject
  cases hproject

/-- Linking leaves the details of rows alone and adds no row, so a project that is stored again over
its linked store is back where it was. -/
theorem eq_linked_of_repeats {again : Store} (hstore : store.WellFormed)
    (hrepeats : Repeats (linked store projectId size) store again) :
    again = linked store projectId size := by
  have hsymbols : again.symbols = (linked store projectId size).symbols := by
    refine hrepeats.symbols.eq_final fun symbol hsymbol last hlast hid ↦ ?_
    obtain rfl := hstore.symbols.eq_of_id_eq hsymbol hlast hid
    rfl
  have himports : again.imports = (linked store projectId size).imports := by
    refine hrepeats.imports.eq_final fun entry hentry last hlast hid ↦ ?_
    let target := within .imports projectId size (importSymbol store projectId)
    obtain ⟨before, hbefore, rfl⟩ := List.mem_map.mp
      (show last ∈ store.imports.map (Ledger.imports.settleWith target) from hlast)
    have hbeforeId : Ledger.imports.id (Ledger.imports.settleWith target before) = before.id :=
      Ledger.id_settleWith
    obtain rfl := hstore.imports.eq_of_id_eq hentry hbefore (hid.trans hbeforeId)
    have hsettle : Ledger.imports.settleWith target entry = entry ∨
        Ledger.imports.isOpen entry = true ∧ ∃ symbolId, target entry = some symbolId ∧
          Ledger.imports.settleWith target entry = entry.settle symbolId :=
      Ledger.settleWith_cases target entry
    rcases hsettle with hkept | ⟨-, symbolId, -, hsettled⟩
    · rw [hkept]
    · rw [hsettled]
      rfl
  calc
    again = ⟨again.projects, again.symbols, again.imports, again.calls⟩ := rfl
    _ = linked store projectId size := by
      rw [hrepeats.projects, hsymbols, himports, hrepeats.calls]

end Resolution

/-! ### Storing files again -/

namespace Ingest

variable {projectId : Int}

/-- In an unknown project no file is stored. -/
theorem files_of_unknown {store : Store} (hstore : store.WellFormed)
    (hunknown : store.hasProject projectId = false) (texts : List SourceText) :
    (files projectId texts store).2 = store ∧
      (files projectId texts store).1 =
        (files projectId texts store).1.map (Except.map FileStats.withoutNewCalls) := by
  induction texts with
  | nil => exact ⟨rfl, rfl⟩
  | cons text rest ih =>
    have hfails : ∃ failure,
        Store.attempt (file projectId text.path text.source) store = (.error failure, store) := by
      unfold Store.attempt
      cases hread : SourceFile.extract text.path text.source with
      | error failure =>
        rw [file_run_of_unreadable hread]
        exact ⟨failure, rfl⟩
      | ok read =>
        rw [file_run_of_read hread, extraction_run_of_unknown hstore hunknown hread]
        exact ⟨_, rfl⟩
    obtain ⟨failure, hfails⟩ := hfails
    unfold files
    dsimp only
    rw [hfails]
    exact ⟨ih.1, congrArg (Except.error failure :: ·) ih.2⟩

section Known

variable {final : Store} (hfinal : final.WellFormed)
include hfinal

/-- In a known project, a file that is stored again comes to the same, or fails again. -/
theorem repeats_file {earlier again : Store} (hrepeats : Repeats final earlier again)
    (hproject : earlier.hasProject projectId = true) {path source : String}
    (hearlier : earlier.Grows final)
    (hlater : (Store.attempt (file projectId path source) earlier).2.Grows final) :
    (Store.attempt (file projectId path source) again).1 =
        (Store.attempt (file projectId path source) earlier).1.map FileStats.withoutNewCalls ∧
      Repeats final (Store.attempt (file projectId path source) earlier).2
        (Store.attempt (file projectId path source) again).2 := by
  unfold Store.attempt at hlater ⊢
  cases hread : SourceFile.extract path source with
  | error failure =>
    rw [file_run_of_unreadable hread, file_run_of_unreadable hread]
    exact ⟨rfl, hrepeats⟩
  | ok read =>
    rw [file_run_of_read hread] at hlater ⊢
    rw [file_run_of_read hread]
    have hstored : ∃ stats later,
        (extraction ⟨projectId, path⟩ read).run earlier = .ok (stats, later) :=
      exists_extraction_run hproject read
    obtain ⟨stats, later, hrun⟩ := hstored
    rw [hrun] at hlater ⊢
    obtain ⟨last, hagain, hrepeats⟩ :=
      repeats_extraction hfinal hrepeats hearlier hlater hproject hrun
    rw [hagain]
    exact ⟨rfl, hrepeats⟩

/-- In a known project, files that are stored again go in step with the first time. -/
theorem repeats_files {earlier again : Store} (hrepeats : Repeats final earlier again)
    (hproject : earlier.hasProject projectId = true) {texts : List SourceText}
    (hlater : (files projectId texts earlier).2.Grows final) :
    (files projectId texts again).1 =
        (files projectId texts earlier).1.map (Except.map FileStats.withoutNewCalls) ∧
      Repeats final (files projectId texts earlier).2 (files projectId texts again).2 := by
  induction texts generalizing earlier again with
  | nil => exact ⟨rfl, hrepeats⟩
  | cons text rest ih =>
    have hkept := Store.keptByWrites_grows.toKeptByFileWrites
    have hfile := (preserves_file hkept projectId text.path text.source).attempt
      hkept.toIsPreorder earlier
    have hrest := relates_files hkept projectId rest
      (Store.attempt (file projectId text.path text.source) earlier).2
    have hmiddle := hrest.trans _ _ _ hlater
    obtain ⟨houtcome, hrepeats⟩ :=
      repeats_file hfinal hrepeats hproject (hfile.trans _ _ _ hmiddle) hmiddle
    obtain ⟨houtcomes, hrepeats⟩ := ih hrepeats (hfile.hasProject hproject) hlater
    refine ⟨?_, hrepeats⟩
    unfold files
    dsimp only
    rw [houtcome, houtcomes, List.map_cons]

end Known

/-- Files that are stored again after they were linked leave the store as it is. -/
theorem files_linked {store : Store} (hstore : store.WellFormed) (projectId : Int)
    (batchSize : Nat) (texts : List SourceText) :
    let last := Resolution.linked (files projectId texts store).2 projectId batchSize
    (files projectId texts last).2 = last ∧ (files projectId texts last).1 =
      (files projectId texts store).1.map (Except.map FileStats.withoutNewCalls) := by
  have hstored := wellFormed_files hstore projectId texts
  intro last
  cases hproject : store.hasProject projectId with
  | false =>
    obtain ⟨hsame, houtcomes⟩ := files_of_unknown hstore hproject texts
    have hlast : last = store := by
      change Resolution.linked (files projectId texts store).2 projectId batchSize = store
      rw [hsame, Resolution.linked_of_unknown hstore hproject]
    rw [hlast]
    exact ⟨hsame, houtcomes⟩
  | true =>
    have hgrows : (files projectId texts store).2.Grows last :=
      Resolution.relates_linked Store.keptByWrites_grows hstored projectId batchSize
    have hlast : last.WellFormed :=
      Resolution.relates_linked Store.keptByWrites_wellFormed hstored projectId batchSize hstored
    obtain ⟨houtcomes, hrepeats⟩ := repeats_files hlast (.refl last store) hproject hgrows
    exact ⟨Resolution.eq_linked_of_repeats hstored hrepeats, houtcomes⟩

end Ingest

/-- In every store that operations reach, running over files of a project a second time leaves every
row of every table exactly as the first run left it. The second run has the same outcome for each
file as the first one, whether it failed or was stored with whatever orphans and conflicts, except
that none of its calls is new, and it resolves nothing. -/
theorem run_run_storeAfter (operations : List Operation) (projectId : Int) (batchSize : Nat)
    (texts : List SourceText) :
    let first := Ingest.run projectId batchSize texts (storeAfter operations)
    let second := Ingest.run projectId batchSize texts first.store
    second.store = first.store ∧
      second.outcomes = first.outcomes.map (Except.map FileStats.withoutNewCalls) ∧
      ∃ imports calls, second.linked = .ok (imports, calls) ∧
        imports.newlyResolved = 0 ∧ calls.newlyResolved = 0 := by
  have hstore := wellFormed_storeAfter operations
  have hstored := Ingest.wellFormed_files hstore projectId texts
  intro first second
  have hfirst : first = ⟨_, _, _⟩ := Ingest.run_eq hstore projectId batchSize texts
  have hlast : first.store.WellFormed := by
    rw [hfirst]
    exact Resolution.relates_linked Store.keptByWrites_wellFormed hstored projectId batchSize
      hstored
  have hsecond : second = ⟨_, _, _⟩ := Ingest.run_eq hlast projectId batchSize texts
  obtain ⟨hsame, houtcomes⟩ := Ingest.files_linked hstore projectId batchSize texts
  rw [hsecond, hfirst]
  dsimp only
  rw [hsame, houtcomes]
  exact ⟨Resolution.linked_linked, rfl, _, _, rfl, Resolution.newlyResolved_linkStats_linked⟩

end SymbolGraph
