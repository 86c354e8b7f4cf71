import Mathlib
import SymbolGraph.Proofs.Impact.Report

/-!
# Traversals saturate

The frontiers of a traversal (`Impact.frontiers`) are all that it looks up (`follow_congr`). What a
level leaves to be expanded was reached by no level before it, so no symbol enters a frontier twice
(`nodup_frontiers`), and as only stored symbols enter one, there are no more frontiers with a symbol
in them than symbols (`length_frontiers_le`). A traversal that ends with fewer frontiers than its
depth allows for is not ended by its depth, and following it further adds nothing (`traverse_add`).
So all depths from the number of symbols on give the same report (`analyzeBy_saturates`): a circle
of calls ends by itself, and the depth is not what ends it.
-/

set_option autoImplicit false
set_option relaxedAutoImplicit false

namespace SymbolGraph

namespace Impact

/-- The frontiers of a traversal, in order, but for an empty one at its end: those with which it
begins its levels, and the one that is left when its depth or a budget ends it. -/
def frontiers (callers : List Int → List CallerEdge) (limits : ImpactLimits) (targetId : Int)
    (remaining depth : Nat) (frontier : List Int) (entries : List ImpactEntry) : List (List Int) :=
  (traverse callers limits targetId remaining depth frontier entries).frontiers

variable {callers : List Int → List CallerEdge} {limits : ImpactLimits} {targetId : Int}
  {remaining depth : Nat} {frontier : List Int} {met : List ImpactEntry}

/-- A traversal looks up the callers of its frontiers only. -/
theorem traverse_congr {others : List Int → List CallerEdge}
    (hsame : ∀ asked ∈ frontiers callers limits targetId remaining depth frontier met,
      others asked = callers asked) :
    traverse others limits targetId remaining depth frontier met =
      traverse callers limits targetId remaining depth frontier met := by
  unfold frontiers at hsame
  fun_induction traverse callers limits targetId remaining depth frontier met with
  | case1 => rfl
  | case2 remaining depth frontier met hempty => rw [traverse, if_pos hempty]
  | case3 remaining depth frontier met hnonempty htime =>
    rw [traverse, if_neg hnonempty, if_pos htime]
  | case4 remaining depth frontier met hnonempty htime level hstopped =>
    have hlevel : others frontier = callers frontier := hsame frontier List.mem_cons_self
    rw [traverse_succ hnonempty htime, hlevel]
    exact if_pos hstopped
  | case5 remaining depth frontier met hnonempty htime level hgoes ih =>
    have hlevel : others frontier = callers frontier := hsame frontier List.mem_cons_self
    have hlater := ih fun asked hasked ↦ hsame asked (List.mem_cons_of_mem frontier hasked)
    rw [traverse_succ hnonempty htime, hlevel]
    exact (if_neg hgoes).trans (congrArg (Traversal.after frontier) hlater)

theorem follow_congr {others : List Int → List CallerEdge}
    (hsame : ∀ asked ∈ frontiers callers limits targetId remaining depth frontier met,
      others asked = callers asked) :
    follow others limits targetId remaining depth frontier met =
      follow callers limits targetId remaining depth frontier met := by
  rw [follow, traverse_congr hsame, follow]

theorem ne_nil_of_mem_frontiers {asked : List Int}
    (hasked : asked ∈ frontiers callers limits targetId remaining depth frontier met) :
    asked ≠ [] := by
  unfold frontiers at hasked
  fun_induction traverse callers limits targetId remaining depth frontier met with
  | case1 depth frontier met =>
    dsimp only at hasked
    split at hasked
    · cases hasked
    · rename_i hnonempty
      obtain rfl := List.mem_singleton.mp hasked
      exact mt List.isEmpty_iff.mpr hnonempty
  | case2 => cases hasked
  | case3 remaining depth frontier met hnonempty =>
    obtain rfl := List.mem_singleton.mp hasked
    exact mt List.isEmpty_iff.mpr hnonempty
  | case4 remaining depth frontier met hnonempty =>
    obtain rfl := List.mem_singleton.mp hasked
    exact mt List.isEmpty_iff.mpr hnonempty
  | case5 remaining depth frontier met hnonempty htime level hgoes ih =>
    rcases List.mem_cons.mp hasked with rfl | hlater
    · exact mt List.isEmpty_iff.mpr hnonempty
    · exact ih hlater

/-! ### Each symbol once -/

/-- Every symbol enters a frontier at most once, and no symbol that was reached before enters one
but the first. -/
theorem nodup_frontiers (honce : (met.map ImpactEntry.site).Nodup) (hfrontier : frontier.Nodup)
    (hreached : ∀ id ∈ frontier, isReached targetId met id = true) :
    (frontiers callers limits targetId remaining depth frontier met).flatten.Nodup ∧
      ∀ id ∈ (frontiers callers limits targetId remaining depth frontier met).flatten,
        id ∉ frontier → isReached targetId met id = false := by
  unfold frontiers
  fun_induction traverse callers limits targetId remaining depth frontier met with
  | case1 =>
    dsimp only
    split
    · simp
    · exact ⟨by simpa using hfrontier, by simp +contextual⟩
  | case2 => simp
  | case3 => exact ⟨by simpa using hfrontier, by simp +contextual⟩
  | case4 => exact ⟨by simpa using hfrontier, by simp +contextual⟩
  | case5 remaining depth frontier met hnonempty htime level hgoes ih =>
    obtain ⟨hlater, hnew⟩ := ih (visited_visit _ _ _ _ honce).once (nodup_next_visit _ _ _ _ _)
      fun id hid ↦ isReached_of_mem_next_visit honce hid
    -- what is expanded from here on is left by this level, or was not even reached by it
    have hunreached : ∀ id ∈ (traverse callers limits targetId remaining (depth + 1) level.next
        level.entries).frontiers.flatten, isReached targetId met id = false := by
      intro id hid
      by_cases hnext : id ∈ level.next
      · exact (mem_next_visit honce hnext).1
      · refine Bool.eq_false_iff.mpr fun hmet ↦ Bool.eq_false_iff.mp (hnew id hid hnext) ?_
        exact isReached_of_subset (prefix_entries_visit _ _ _ _ _).subset hmet
    rw [Traversal.after, List.flatten_cons]
    refine ⟨hfrontier.append hlater fun id hid hlaterId ↦ ?_, fun id hid hother ↦ ?_⟩
    · exact Bool.eq_false_iff.mp (hunreached id hlaterId) (hreached id hid)
    · exact hunreached id ((List.mem_append.mp hid).resolve_left hother)

/-! ### Only stored symbols -/

variable {store : Store} {projectId : Int}

/-- The symbols of the frontiers are stored. -/
theorem flatten_frontiers_subset
    (hcallers : ∀ frontier, (callers frontier).Perm (store.callersOf projectId frontier))
    (honce : (met.map ImpactEntry.site).Nodup)
    (hfrontier : frontier ⊆ store.symbols.map (·.id)) :
    (frontiers callers limits targetId remaining depth frontier met).flatten ⊆
      store.symbols.map (·.id) := by
  unfold frontiers
  fun_induction traverse callers limits targetId remaining depth frontier met with
  | case1 =>
    dsimp only
    split
    · simp
    · simpa using hfrontier
  | case2 => simp
  | case3 => simpa using hfrontier
  | case4 => simpa using hfrontier
  | case5 remaining depth frontier met hnonempty htime level hgoes ih =>
    rw [Traversal.after, List.flatten_cons]
    refine List.append_subset.mpr ⟨hfrontier, ih (visited_visit _ _ _ _ honce).once ?_⟩
    intro id hid
    obtain ⟨-, edge, hedge, rfl⟩ := mem_next_visit honce hid
    obtain ⟨caller, hcaller, -⟩ :=
      Store.exists_symbol?_of_mem_callersOf ((hcallers frontier).mem_iff.mp hedge)
    obtain ⟨hmem, hsame⟩ := Store.mem_of_symbol?_eq_some hcaller
    exact List.mem_map.mpr ⟨caller, hmem, hsame⟩

/-- From a stored target on, the frontiers have each symbol at most once. -/
theorem nodup_frontiers_target (callers : List Int → List CallerEdge) (limits : ImpactLimits)
    (targetId : Int) (maxDepth : Nat) :
    (frontiers callers limits targetId maxDepth 1 [targetId] []).flatten.Nodup := by
  have honce : (([] : List ImpactEntry).map ImpactEntry.site).Nodup := List.nodup_nil
  refine (nodup_frontiers honce (List.nodup_singleton targetId) fun id hid ↦ ?_).1
  exact isReached_iff.mpr (.inl (List.mem_singleton.mp hid))

/-- There are no more frontiers than symbols. -/
theorem length_frontiers_le (limits : ImpactLimits)
    (hcallers : ∀ frontier, (callers frontier).Perm (store.callersOf projectId frontier))
    {target : Symbol} (htarget : target ∈ store.symbols) (maxDepth : Nat) :
    (frontiers callers limits target.id maxDepth 1 [target.id] []).length ≤
      store.symbols.length := by
  have hfrontier : [target.id] ⊆ store.symbols.map (·.id) :=
    List.cons_subset.mpr ⟨List.mem_map_of_mem htarget, List.nil_subset _⟩
  have hsubset : (frontiers callers limits target.id maxDepth 1 [target.id] []).flatten ⊆
      store.symbols.map (·.id) := flatten_frontiers_subset hcallers List.nodup_nil hfrontier
  have hsymbols := List.subperm_of_subset
    (nodup_frontiers_target callers limits target.id maxDepth) hsubset
  calc (frontiers callers limits target.id maxDepth 1 [target.id] []).length
      = ((frontiers callers limits target.id maxDepth 1 [target.id] []).map List.length).length :=
        (List.length_map _).symm
    _ ≤ ((frontiers callers limits target.id maxDepth 1 [target.id] []).map List.length).sum := by
        refine List.length_le_sum_of_one_le _ fun size hsize ↦ ?_
        obtain ⟨asked, hasked, rfl⟩ := List.mem_map.mp hsize
        exact List.length_pos_iff.mpr (ne_nil_of_mem_frontiers hasked)
    _ = (frontiers callers limits target.id maxDepth 1 [target.id] []).flatten.length :=
        List.length_flatten.symm
    _ ≤ (store.symbols.map (·.id)).length := hsymbols.length_le
    _ = store.symbols.length := List.length_map _

/-! ### Enough levels -/

/-- A traversal with fewer frontiers than its depth allows for is not ended by the depth. -/
theorem traverse_add
    (hlength : (frontiers callers limits targetId remaining depth frontier met).length ≤ remaining)
    (further : Nat) : traverse callers limits targetId (remaining + further) depth frontier met =
      traverse callers limits targetId remaining depth frontier met := by
  unfold frontiers at hlength
  fun_induction traverse callers limits targetId remaining depth frontier met with
  | case1 depth frontier met =>
    dsimp only at hlength
    split at hlength
    · rename_i hempty
      rw [List.isEmpty_iff.mp hempty]
      cases further with
      | zero => rfl
      | succ further => rw [Nat.zero_add]; rfl
    · cases hlength
  | case2 remaining depth frontier met hempty =>
    rw [Nat.succ_add, traverse, if_pos hempty]
  | case3 remaining depth frontier met hnonempty htime =>
    rw [Nat.succ_add, traverse, if_neg hnonempty, if_pos htime]
  | case4 remaining depth frontier met hnonempty htime level hstopped =>
    rw [Nat.succ_add, traverse_succ hnonempty htime]
    exact if_pos hstopped
  | case5 remaining depth frontier met hnonempty htime level hgoes ih =>
    rw [Nat.succ_add, traverse_succ hnonempty htime]
    refine (if_neg hgoes).trans (congrArg (Traversal.after frontier) (ih ?_))
    exact Nat.le_of_succ_le_succ hlength

end Impact

/-! ### Reports -/

/-- Take a query whose target is found in a store, and any budgets. To whatever depth its traversal
goes, the frontiers that it looks up have each symbol at most once, and they are no more than the
symbols of the store. From that depth on, the report does not depend on the depth. -/
theorem analyzeBy_saturates {store : Store} {projectId : Int} (query : ImpactQuery)
    (limits : ImpactLimits) {callers : List Int → List CallerEdge}
    (hcallers : ∀ frontier, (callers frontier).Perm (store.callersOf projectId frontier))
    {target : Symbol} {others : List Symbol}
    (htarget : store.findSymbols projectId query.symbol query.file = target :: others) :
    (∀ maxDepth,
      let asked := Impact.frontiers callers limits target.id maxDepth 1 [target.id] []
      (∀ lookUp : List Int → List CallerEdge,
        (∀ frontier ∈ asked, lookUp frontier = callers frontier) →
          Impact.follow lookUp limits target.id maxDepth 1 [target.id] [] =
            Impact.follow callers limits target.id maxDepth 1 [target.id] []) ∧
      (∀ frontier ∈ asked, frontier ≠ []) ∧ asked.flatten.Nodup ∧
      asked.length ≤ store.symbols.length) ∧
    ∃ report : ImpactReport, ∀ maxDepth, store.symbols.length ≤ maxDepth →
      Impact.analyzeBy callers store projectId { query with maxDepth := maxDepth } limits =
        .found { report with maxDepth := maxDepth } := by
  have hstored : target ∈ store.symbols := by
    have hnamed := Store.mem_symbolsNamed_of_mem_findSymbols (htarget ▸ List.mem_cons_self)
    exact (Store.mem_symbolsNamed_iff.mp hnamed).1
  refine ⟨fun maxDepth ↦ ⟨fun lookUp hsame ↦ Impact.follow_congr hsame,
    fun frontier hfrontier ↦ Impact.ne_nil_of_mem_frontiers hfrontier,
    Impact.nodup_frontiers_target callers limits target.id maxDepth,
    Impact.length_frontiers_le limits hcallers hstored maxDepth⟩, ?_⟩
  generalize henough : store.symbols.length = enough
  have hfrontiers := henough ▸ Impact.length_frontiers_le limits hcallers hstored enough
  refine ⟨Impact.report target.summary others.length enough
    (Impact.follow callers limits target.id enough 1 [target.id] []).1
    (Impact.follow callers limits target.id enough 1 [target.id] []).2, fun maxDepth hle ↦ ?_⟩
  obtain ⟨further, rfl⟩ := Nat.exists_eq_add_of_le hle
  rw [Impact.analyzeBy_of_found callers { query with maxDepth := enough + further } limits htarget,
    Impact.follow, Impact.traverse_add hfrontiers further]
  rfl

/-- In the circle of calls the target calls as well, but it is not expanded again: four levels with
four symbols are enough. -/
theorem analyzeBy_saturates_circleOfCalls :
    let store := storeAfter circleOfCalls
    Impact.frontiers (store.callersOf 1) ⟨fun _ ↦ false, 100⟩ 3 9 1 [3] [] = [[3], [2, 4], [1]] ∧
      store.symbols.length = 4 ∧ ∃ report : ImpactReport, ∀ maxDepth, 4 ≤ maxDepth →
        Impact.analyzeBy (store.callersOf 1) store 1 ⟨"c", none, maxDepth⟩ ⟨fun _ ↦ false, 100⟩ =
          .found { report with maxDepth := maxDepth } := by
  have hlength : (storeAfter circleOfCalls).symbols.length = 4 := by decide +kernel
  obtain ⟨-, report, hreport⟩ := analyzeBy_saturates ⟨"c", none, 0⟩ ⟨fun _ ↦ false, 100⟩
    (fun _ ↦ List.Perm.refl _) findSymbols_circleOfCalls
  refine ⟨by cbv, hlength, report, fun maxDepth hle ↦ ?_⟩
  exact hreport maxDepth (hlength ▸ hle)

end SymbolGraph
