import Mathlib
import SymbolGraph.Proofs.Impact.Report
import SymbolGraph.Proofs.Pipeline.CallResolution

/-!
# Result budgets cut reports short

A result budget that is larger than the number of calls is never spent (`follow_goes`). A smaller
one cuts the traversal to its first entries (`isCut_follow`): beside a level that goes to its end,
one that its budget stops has the first of the same entries (`entries_visit_take`), and what later
levels would add is cut off. So a report under a budget has the first entries of the report without
one, in order again (`analyzeBy_cut`).

The budget is tested at every edge, also at one whose site was met before and that adds no entry. A
traversal that has met just as many sites as its budget allows is therefore stopped by such an edge,
although nothing is left out. That takes a site at which two calls are (`Store.IsShared`):
otherwise the sites of a frontier's edges are new and different (`Met.not_mem_of_edge`,
`Store.nodup_callersOf`), and a truncated report is incomplete (`analyzeBy_truncated`). In a call
whose argument calls again, it happens (`exists_truncated_nestedCall`).
-/

set_option autoImplicit false
set_option relaxedAutoImplicit false

namespace SymbolGraph

/-! ### Sites of several calls -/

namespace Store

/-- Two resolved calls of the project are at the site. -/
def IsShared (store : Store) (projectId : Int) (site : CallSite) : Prop :=
  ∃ first ∈ store.calls, ∃ second ∈ store.calls, first ≠ second ∧
    (first.projectId = projectId ∧ first.site = site ∧ first.target ≠ none) ∧
    second.projectId = projectId ∧ second.site = site ∧ second.target ≠ none

variable {store : Store} {projectId : Int}

/-- A site at which different symbols are called is shared. -/
theorem isShared_of_callsAt {site : CallSite} {firstId secondId : Int}
    (hfirst : store.CallsAt projectId site firstId)
    (hsecond : store.CallsAt projectId site secondId) (hne : firstId ≠ secondId) :
    store.IsShared projectId site := by
  obtain ⟨first, hfirstMem, hfirstProject, hfirstSite, hfirstTarget⟩ := hfirst
  obtain ⟨second, hsecondMem, hsecondProject, hsecondSite, hsecondTarget⟩ := hsecond
  refine ⟨first, hfirstMem, second, hsecondMem, ?_, ⟨hfirstProject, hfirstSite, ?_⟩,
    hsecondProject, hsecondSite, ?_⟩
  · rintro rfl
    exact hne (Option.some.inj (hfirstTarget.symm.trans hsecondTarget))
  · exact hfirstTarget ▸ Option.some_ne_none _
  · exact hsecondTarget ▸ Option.some_ne_none _

theorem callsAt_of_mem_callersOfEach {calleeIds : List Int} {edge : CallerEdge}
    (hedge : edge ∈ store.callersOfEach projectId calleeIds) :
    edge.calleeId ∈ calleeIds ∧ store.CallsAt projectId edge.site edge.calleeId := by
  obtain ⟨hid, call, hcall, hproject, hjoined⟩ := mem_callersOfEach_iff.mp hedge
  exact ⟨hid, call, hcall, hproject, (site_of_callerEdge?_eq_some hjoined).symm,
    (callerEdge?_eq_some_iff.mp hjoined).1⟩

/-- A page of callers has two edges of one site only where calls share the site. -/
theorem nodup_callersOfEach (hstore : store.WellFormed) {calleeIds : List Int}
    (halone : ∀ edge ∈ store.callersOfEach projectId calleeIds,
      ¬ store.IsShared projectId edge.site) :
    ((store.callersOfEach projectId calleeIds).map CallerEdge.site).Nodup := by
  have hcalls : (sortBy Call.compareBySite (store.calls.filter fun call ↦
      call.projectId == projectId && calleeIds.any fun id ↦ call.target == some id)).Nodup :=
    (perm_sortBy _ _).nodup_iff.mpr (hstore.calls.nodup.filter _)
  unfold callersOfEach at halone ⊢
  refine List.pairwise_map.mpr (List.pairwise_filterMap.mpr (hcalls.imp_of_mem ?_))
  intro first second hfirst hsecond hne left hleft right hright hsame
  refine halone left (List.mem_filterMap.mpr ⟨first, hfirst, hleft⟩) ?_
  rw [mem_sortBy_iff, List.mem_filter, Bool.and_eq_true, beq_iff_eq] at hfirst hsecond
  obtain ⟨htarget, -⟩ := callerEdge?_eq_some_iff.mp hleft
  obtain ⟨htargetToo, -⟩ := callerEdge?_eq_some_iff.mp hright
  have hsite := site_of_callerEdge?_eq_some hleft
  have hsiteToo := site_of_callerEdge?_eq_some hright
  exact ⟨first, hfirst.1, second, hsecond.1, hne,
    ⟨hfirst.2.1, hsite.symm, htarget ▸ Option.some_ne_none _⟩,
    hsecond.2.1, hsiteToo.symm.trans hsame.symm, htargetToo ▸ Option.some_ne_none _⟩

/-- A look-up of different symbols has two edges of one site only where calls share the site. -/
theorem nodup_callersOf (hstore : store.WellFormed) {calleeIds : List Int}
    (hids : calleeIds.Nodup)
    (halone : ∀ edge ∈ store.callersOf projectId calleeIds,
      ¬ store.IsShared projectId edge.site) :
    ((store.callersOf projectId calleeIds).map CallerEdge.site).Nodup := by
  rw [← flatten_pagesOf (calleePage - 1) calleeIds, List.nodup_flatten] at hids
  rw [callersOf, List.map_flatMap, List.nodup_flatMap]
  refine ⟨fun page hpage ↦ nodup_callersOfEach hstore fun edge hedge ↦ ?_, ?_⟩
  · exact halone edge (List.mem_flatMap.mpr ⟨page, hpage, hedge⟩)
  · refine hids.2.imp_of_mem fun {first second} hfirst hsecond hdisjoint ↦ ?_
    -- symbols of different pages are different, so only different calls can be at one site
    intro site hsite hsiteToo
    obtain ⟨left, hleft, rfl⟩ := List.mem_map.mp hsite
    obtain ⟨right, hright, hsame⟩ := List.mem_map.mp hsiteToo
    obtain ⟨hleftId, hleftCall⟩ := callsAt_of_mem_callersOfEach hleft
    obtain ⟨hrightId, hrightCall⟩ := callsAt_of_mem_callersOfEach hright
    refine halone left (List.mem_flatMap.mpr ⟨first, hfirst, hleft⟩) ?_
    refine isShared_of_callsAt hleftCall (hsame ▸ hrightCall) fun hid ↦ ?_
    exact hdisjoint hleftId (hid ▸ hrightId)

end Store

namespace Impact

/-- What a traversal gives under a result budget, beside what it gives when no budget stops it: the
first of the entries, and the same when it is not stopped. -/
structure IsCut (maxResults : Nat) (cut whole : List ImpactEntry × Bool) : Prop where
  entries : cut.1 = whole.1.take maxResults
  same : cut.2 = false → cut = whole

variable {callers : List Int → List CallerEdge} {limits whole : ImpactLimits} {targetId : Int}

/-! ### The first entries -/

section

variable {maxResults depth : Nat} {edge : CallerEdge} {rest : List CallerEdge} {level : Level}
  (hgoes : (visit maxResults targetId depth (edge :: rest) level).stopped = false)
include hgoes

/-- When a level is not stopped, the budget is not spent at its first edge. -/
theorem not_spent_of_goes : ¬ maxResults ≤ level.entries.length := by
  intro hspent
  rw [visit, if_pos hspent] at hgoes
  cases hgoes

theorem visit_of_met (hmet : (level.entries.any fun entry ↦ entry.isSiteOf edge) = true) :
    visit maxResults targetId depth (edge :: rest) level =
      visit maxResults targetId depth rest level := by
  rw [visit, if_neg (not_spent_of_goes hgoes), if_pos hmet]

theorem visit_of_new (hnew : ¬ (level.entries.any fun entry ↦ entry.isSiteOf edge) = true) :
    visit maxResults targetId depth (edge :: rest) level =
      visit maxResults targetId depth rest (level.add targetId depth edge) := by
  rw [visit, if_neg (not_spent_of_goes hgoes), if_neg hnew]

end

variable {maxResults large depth : Nat} {edges : List CallerEdge} {level : Level}

/-- Levels that are not stopped are the same, whatever their budgets. -/
theorem visit_eq_of_goes
    (hcut : (visit maxResults targetId depth edges level).stopped = false)
    (hgoes : (visit large targetId depth edges level).stopped = false) :
    visit maxResults targetId depth edges level = visit large targetId depth edges level := by
  fun_induction visit maxResults targetId depth edges level with
  | case1 => rfl
  | case2 => cases hcut
  | case3 edge rest level hbudget hmet ih =>
    have hnext := visit_of_met hgoes hmet
    rw [hnext] at hgoes ⊢
    exact ih hcut hgoes
  | case4 edge rest level hbudget hnew ih =>
    have hnext := visit_of_new hgoes hnew
    rw [hnext] at hgoes ⊢
    exact ih hcut hgoes

/-- A level under a result budget has the first entries of the level that goes to its end. -/
theorem entries_visit_take (hlevel : level.entries.length ≤ maxResults)
    (hgoes : (visit large targetId depth edges level).stopped = false) :
    (visit maxResults targetId depth edges level).entries =
      (visit large targetId depth edges level).entries.take maxResults := by
  fun_induction visit maxResults targetId depth edges level with
  | case1 => exact (List.take_of_length_le hlevel).symm
  | case2 edge rest level hspent =>
    rw [Nat.le_antisymm hspent hlevel]
    exact List.prefix_iff_eq_take.mp
      (prefix_entries_visit large targetId depth (edge :: rest) level)
  | case3 edge rest level hbudget hmet ih =>
    have hnext := visit_of_met hgoes hmet
    rw [hnext] at hgoes ⊢
    exact ih hlevel hgoes
  | case4 edge rest level hbudget hnew ih =>
    have hnext := visit_of_new hgoes hnew
    rw [hnext] at hgoes ⊢
    refine ih ?_ hgoes
    rw [add_entries, List.length_append, List.length_singleton]
    exact Nat.lt_of_not_le hbudget

/-- A traversal with time enough is cut to its first entries by its result budget. -/
theorem isCut_follow (htime : ∀ level, limits.isTimeUp level = false) {remaining : Nat}
    {frontier : List Int} {met : List ImpactEntry} (hmet : met.length ≤ limits.maxResults)
    (hgoes : (follow callers whole targetId remaining depth frontier met).2 = false) :
    IsCut limits.maxResults (follow callers limits targetId remaining depth frontier met)
      (follow callers whole targetId remaining depth frontier met) := by
  fun_induction traverse callers limits targetId remaining depth frontier met with
  | case1 => exact ⟨(List.take_of_length_le hmet).symm, fun _ ↦ rfl⟩
  | case2 remaining depth frontier met hempty =>
    rw [List.isEmpty_iff.mp hempty, follow_nil, follow_nil]
    exact ⟨(List.take_of_length_le hmet).symm, fun _ ↦ rfl⟩
  | case3 remaining depth frontier met hnonempty htimeUp =>
    rw [htime depth] at htimeUp
    cases htimeUp
  | case4 remaining depth frontier met hnonempty htimeUp level hstopped =>
    obtain ⟨hlevel, hnext⟩ := follow_of_goes hnonempty hgoes
    have htake := entries_visit_take hmet hlevel
    rw [hnext, follow_succ hnonempty htimeUp, if_pos hstopped]
    refine ⟨?_, fun hgoesToo ↦ by cases hgoesToo⟩
    -- the budget is spent within the level, so what later levels add is cut off
    have hspent : limits.maxResults ≤ level.entries.length := maxResults_le_of_stopped rfl hstopped
    rw [htake] at hspent
    obtain ⟨later, hlater⟩ := prefix_follow callers whole targetId remaining (depth + 1) _ _
    rw [← hlater, List.take_append_of_le_length (Nat.le_trans hspent (List.length_take_le' _ _))]
    exact htake
  | case5 remaining depth frontier met hnonempty htimeUp level hstopped ih =>
    obtain ⟨hlevel, hnext⟩ := follow_of_goes hnonempty hgoes
    have htake := entries_visit_take hmet hlevel
    rw [hnext, ← visit_eq_of_goes (Bool.eq_false_iff.mpr hstopped) hlevel] at hgoes ⊢
    rw [follow_succ hnonempty htimeUp, if_neg hstopped]
    exact ih (htake ▸ List.length_take_le _ _) hgoes

/-- A result budget that is larger than the number of calls is not spent. -/
theorem follow_goes (limits : ImpactLimits) (targetId : Int) {store : Store}
    (hstore : store.WellFormed) {projectId : Int}
    (hcallers : ∀ frontier, (callers frontier).Perm (store.callersOf projectId frontier))
    (htime : ∀ level, limits.isTimeUp level = false)
    (hresults : store.calls.length < limits.maxResults) (remaining depth : Nat)
    (frontier : List Int) :
    (follow callers limits targetId remaining depth frontier []).2 = false := by
  refine Bool.eq_false_iff.mpr fun hstopped ↦ ?_
  rcases budget_of_stopped hstopped with ⟨level, htimeUp⟩ | hspent
  · rw [htime level] at htimeUp
    cases htimeUp
  · have hmet : OnCallSites store (follow callers limits targetId remaining depth frontier []).1 :=
      onCallSites_follow hstore hcallers (onCallSites_nil store)
    exact absurd (Nat.le_trans hspent hmet.length_le) (Nat.not_le_of_lt hresults)

/-- From a target on, a budget of more results than there are calls is not spent, and every budget
cuts the traversal that it allows. -/
theorem isCut_target {store : Store} (hstore : store.WellFormed) {projectId : Int}
    (hcallers : ∀ frontier, (callers frontier).Perm (store.callersOf projectId frontier))
    (htime : ∀ level, limits.isTimeUp level = false) {unlimited : Nat}
    (hunlimited : store.calls.length < unlimited) (targetId : Int) (maxDepth : Nat) :
    let whole := follow callers { limits with maxResults := unlimited } targetId maxDepth 1
      [targetId] []
    whole.2 = false ∧
      IsCut limits.maxResults (follow callers limits targetId maxDepth 1 [targetId] []) whole := by
  have hgoes := follow_goes { limits with maxResults := unlimited } targetId hstore hcallers htime
    hunlimited maxDepth 1 [targetId]
  have hempty : ([] : List ImpactEntry).length ≤ limits.maxResults := Nat.zero_le _
  exact ⟨hgoes, isCut_follow htime hempty hgoes⟩

/-! ### What is left out -/

/-- When the sites of the edges are new and different, a level that the budget stops leaves out one
of them. -/
theorem lt_length_visit_of_stopped
    (hnew : ∀ edge ∈ edges, edge.site ∉ level.entries.map ImpactEntry.site)
    (honce : (edges.map CallerEdge.site).Nodup) (hbefore : level.stopped = false)
    (hstopped : (visit maxResults targetId depth edges level).stopped = true)
    (hgoes : (visit large targetId depth edges level).stopped = false) :
    maxResults < (visit large targetId depth edges level).entries.length := by
  have hadded : ∀ edge ∈ edges, ¬ (level.entries.any fun entry ↦ entry.isSiteOf edge) = true :=
    fun edge hedge ↦ mt any_isSiteOf_iff.mp (hnew edge hedge)
  fun_induction visit maxResults targetId depth edges level with
  | case1 => exact absurd hstopped (Bool.eq_false_iff.mp hbefore)
  | case2 edge rest level hspent =>
    rw [visit_of_new hgoes (hadded edge List.mem_cons_self)]
    have hlength := (prefix_entries_visit large targetId depth rest
      (level.add targetId depth edge)).length_le
    rw [add_entries, List.length_append, List.length_singleton] at hlength
    exact Nat.lt_of_lt_of_le (Nat.lt_succ_of_le hspent) hlength
  | case3 edge rest level hbudget hmet ih => exact absurd hmet (hadded edge List.mem_cons_self)
  | case4 edge rest level hbudget hunmet ih =>
    have hnext := visit_of_new hgoes hunmet
    rw [hnext] at hgoes ⊢
    rw [List.map_cons, List.nodup_cons] at honce
    have hlater : ∀ other ∈ rest,
        other.site ∉ (level.add targetId depth edge).entries.map ImpactEntry.site := by
      intro other hother hmet
      rw [map_site_add, List.mem_append, List.mem_singleton] at hmet
      rcases hmet with hmet | hsame
      · exact hnew other (List.mem_cons_of_mem _ hother) hmet
      · exact honce.1 (hsame ▸ List.mem_map_of_mem hother)
    exact ih hlater honce.2 hbefore hstopped hgoes fun other hother ↦
      mt any_isSiteOf_iff.mp (hlater other hother)

/-! ### Levels without shared sites -/

variable {store : Store} {projectId : Int} (hstore : store.WellFormed)
  (hcallers : ∀ frontier, (callers frontier).Perm (store.callersOf projectId frontier))
include hstore hcallers

/-- At a site that is not shared no symbol of the frontier is called beside a nearer one, so an
earlier level has not met it. -/
theorem Met.not_mem_of_edge {reach : Nat} {frontier : List Int} {met : List ImpactEntry}
    (hmet : Met store projectId targetId reach met)
    (hfrontier : ∀ id, id ∈ frontier ↔ store.IsDistance projectId targetId reach id)
    {edge : CallerEdge} (hedge : edge ∈ callers frontier)
    (halone : ¬ store.IsShared projectId edge.site) :
    edge.site ∉ met.map ImpactEntry.site := by
  intro hold
  obtain ⟨nearId, distance, hnearCall, hnear, hlt⟩ := (hmet.sites edge.site).mp hold
  obtain ⟨hid, hcall⟩ :=
    hstore.exists_callersOf_iff.mp ⟨edge, (hcallers frontier).mem_iff.mp hedge, rfl, rfl⟩
  refine halone (Store.isShared_of_callsAt hnearCall hcall fun hsame ↦ ?_)
  have hunique := hnear.unique (hsame ▸ (hfrontier _).mp hid)
  exact Nat.ne_of_lt hlt hunique

/-- A traversal that is stopped by its result budget leaves out an entry, when no site that it would
go on to meet is shared. -/
theorem lt_length_follow_of_stopped (htime : ∀ level, limits.isTimeUp level = false)
    {remaining reach : Nat} {frontier : List Int} {met : List ImpactEntry}
    (hmet : Met store projectId targetId reach met)
    (hfrontier : ∀ id, id ∈ frontier ↔ store.IsDistance projectId targetId reach id)
    (honce : frontier.Nodup)
    (hstopped : (follow callers limits targetId remaining (reach + 1) frontier met).2 = true)
    (hgoes : (follow callers whole targetId remaining (reach + 1) frontier met).2 = false)
    (halone : ∀ site ∈ (follow callers whole targetId remaining (reach + 1) frontier met).1.map
      ImpactEntry.site, ¬ store.IsShared projectId site) :
    limits.maxResults <
      (follow callers whole targetId remaining (reach + 1) frontier met).1.length := by
  generalize hdepth : reach + 1 = depth at hstopped hgoes halone ⊢
  fun_induction traverse callers limits targetId remaining depth frontier met
    generalizing reach with
  | case1 => cases hstopped
  | case2 remaining depth frontier met hempty =>
    rw [List.isEmpty_iff.mp hempty, follow_nil] at hstopped
    cases hstopped
  | case3 remaining depth frontier met hnonempty htimeUp =>
    rw [htime depth] at htimeUp
    cases htimeUp
  | case4 =>
    rename_i remaining depth frontier met hnonempty htimeUp level hspent
    obtain ⟨hlevel, hnext⟩ := follow_of_goes hnonempty hgoes
    rw [hnext] at halone ⊢
    have hlater := prefix_follow callers whole targetId remaining (depth + 1)
      (visit whole.maxResults targetId depth (callers frontier) ⟨met, [], false⟩).next
      (visit whole.maxResults targetId depth (callers frontier) ⟨met, [], false⟩).entries
    -- the whole level meets every site of its edges, so none of them is shared
    have hunshared : ∀ edge ∈ callers frontier, ¬ store.IsShared projectId edge.site :=
      fun edge hedge ↦ halone _ ((hlater.map _).subset (site_mem_visit hedge hlevel))
    have hnew : ∀ edge ∈ callers frontier, edge.site ∉ met.map ImpactEntry.site :=
      fun edge hedge ↦ hmet.not_mem_of_edge hstore hcallers hfrontier hedge (hunshared edge hedge)
    have hsites : ((callers frontier).map CallerEdge.site).Nodup := by
      rw [((hcallers frontier).map _).nodup_iff]
      exact Store.nodup_callersOf hstore honce fun edge hedge ↦
        hunshared edge ((hcallers frontier).mem_iff.mpr hedge)
    exact Nat.lt_of_lt_of_le (lt_length_visit_of_stopped hnew hsites rfl hspent hlevel)
      hlater.length_le
  | case5 =>
    rename_i remaining depth frontier met hnonempty htimeUp level hspent ih
    subst hdepth
    obtain ⟨hlevel, hnext⟩ := follow_of_goes hnonempty hgoes
    rw [follow_succ hnonempty htimeUp, if_neg hspent] at hstopped
    rw [Bool.not_eq_true] at hspent
    rw [hnext, ← visit_eq_of_goes hspent hlevel] at hgoes halone ⊢
    exact ih (hmet.visit hstore (hcallers frontier) hfrontier hspent)
      (hmet.mem_next_iff hstore (hcallers frontier) hfrontier hspent) (nodup_next_visit _ _ _ _ _)
      rfl hstopped hgoes halone

end Impact

/-! ### Reports -/

/-- In every store that operations reach, take a query whose target is found, with time enough, and
the entries that its traversal meets, in that order, under a budget of more results than there are
calls. Under any other budget the report has the first of these entries, as many as the budget
allows, in order again. It is truncated when there are more, and when it is not truncated, it is the
report under the large budget. -/
theorem analyzeBy_cut (operations : List Operation) (projectId : Int) (query : ImpactQuery)
    (limits : ImpactLimits) (htime : ∀ level, limits.isTimeUp level = false) {unlimited : Nat}
    (hunlimited : (storeAfter operations).calls.length < unlimited)
    {callers : List Int → List CallerEdge}
    (hcallers : ∀ frontier,
      (callers frontier).Perm ((storeAfter operations).callersOf projectId frontier))
    {target : Symbol} {others : List Symbol}
    (htarget : (storeAfter operations).findSymbols projectId query.symbol query.file =
      target :: others) :
    let entries := (Impact.follow callers { limits with maxResults := unlimited } target.id
      query.maxDepth 1 [target.id] []).1
    ∃ report whole : ImpactReport,
      Impact.analyzeBy callers (storeAfter operations) projectId query limits = .found report ∧
      Impact.analyzeBy callers (storeAfter operations) projectId query
        { limits with maxResults := unlimited } = .found whole ∧
      whole.entries = sortBy ImpactEntry.order entries ∧ whole.truncated = false ∧
      report.entries = sortBy ImpactEntry.order (entries.take limits.maxResults) ∧
      (limits.maxResults < entries.length → report.truncated = true) ∧
      (report.truncated = false → report = whole) := by
  obtain ⟨hgoes, hcut⟩ := Impact.isCut_target (wellFormed_storeAfter operations) hcallers htime
    hunlimited target.id query.maxDepth
  refine ⟨_, _, Impact.analyzeBy_of_found callers query limits htarget,
    Impact.analyzeBy_of_found callers query _ htarget, rfl, hgoes,
    congrArg (sortBy ImpactEntry.order) hcut.entries, fun hmore ↦ ?_, fun huncut ↦ ?_⟩
  · refine Bool.not_eq_false _ ▸ fun huncut ↦ ?_
    have hlength := congrArg List.length hcut.entries
    rw [hcut.same huncut, List.length_take] at hlength
    omega
  · rw [hcut.same huncut]

/-- At most three entries for the callers of `c` in the circle: the fourth call site is left out. -/
theorem analyzeBy_cut_circleOfCalls :
    let store := storeAfter circleOfCalls
    let entries := (Impact.follow (store.callersOf 1) ⟨fun _ ↦ false, 100⟩ 3 5 1 [3] []).1
    entries.length = 4 ∧ ∃ report,
      Impact.analyze store 1 ⟨"c", none, 5⟩ ⟨fun _ ↦ false, 3⟩ = .found report ∧
      report.entries = sortBy ImpactEntry.order (entries.take 3) ∧ report.truncated = true := by
  have hunlimited : (storeAfter circleOfCalls).calls.length < 100 := by
    rw [length_calls_circleOfCalls]
    decide
  obtain ⟨report, -, hfound, -, -, -, hentries, hmore, -⟩ :=
    analyzeBy_cut circleOfCalls 1 ⟨"c", none, 5⟩ ⟨fun _ ↦ false, 3⟩ (fun _ ↦ rfl) hunlimited
      (fun _ ↦ List.Perm.refl _) findSymbols_circleOfCalls
  have hlength : (Impact.follow ((storeAfter circleOfCalls).callersOf 1) ⟨fun _ ↦ false, 100⟩ 3 5 1
      [3] []).1.length = 4 := by
    cbv
  exact ⟨hlength, report, hfound, hentries, hmore (hlength ▸ by decide)⟩

/-- In every store that operations reach, take a query whose target is found, with time enough. A
report under a result budget that is truncated has fewer entries than the report under a budget of
more results than there are calls, or it has the same entries, and several resolved calls are at the
site of one of them. -/
theorem analyzeBy_truncated (operations : List Operation) (projectId : Int) (query : ImpactQuery)
    (limits : ImpactLimits) (htime : ∀ level, limits.isTimeUp level = false) {unlimited : Nat}
    (hunlimited : (storeAfter operations).calls.length < unlimited)
    {callers : List Int → List CallerEdge}
    (hcallers : ∀ frontier,
      (callers frontier).Perm ((storeAfter operations).callersOf projectId frontier))
    {target : Symbol} {others : List Symbol}
    (htarget : (storeAfter operations).findSymbols projectId query.symbol query.file =
      target :: others) :
    ∃ report whole : ImpactReport,
      Impact.analyzeBy callers (storeAfter operations) projectId query limits = .found report ∧
      Impact.analyzeBy callers (storeAfter operations) projectId query
        { limits with maxResults := unlimited } = .found whole ∧
      (report.truncated = true → report.entries.length < whole.entries.length ∨
        report.entries = whole.entries ∧ ∃ site ∈ report.entries.map ImpactEntry.site,
          (storeAfter operations).IsShared projectId site) := by
  have hstore := wellFormed_storeAfter operations
  obtain ⟨hgoes, hcut⟩ := Impact.isCut_target hstore hcallers htime hunlimited target.id
    query.maxDepth
  have hfrontier : ∀ id, id ∈ [target.id] ↔
      (storeAfter operations).IsDistance projectId target.id 0 id :=
    fun _ ↦ List.mem_singleton.trans Store.isDistance_zero_iff.symm
  refine ⟨_, _, Impact.analyzeBy_of_found callers query limits htarget,
    Impact.analyzeBy_of_found callers query _ htarget, fun htruncated ↦ ?_⟩
  have hlost := Impact.lt_length_follow_of_stopped hstore hcallers htime Impact.met_nil hfrontier
    (List.nodup_singleton target.id) htruncated hgoes
  by_cases hmore : limits.maxResults < (Impact.follow callers
    { limits with maxResults := unlimited } target.id query.maxDepth 1 [target.id] []).1.length
  · left
    rw [Impact.length_entries_report, Impact.length_entries_report, hcut.entries, List.length_take]
    exact Nat.lt_of_le_of_lt (Nat.min_le_left _ _) hmore
  · right
    have hsame := hcut.entries.trans (List.take_of_length_le (Nat.le_of_not_lt hmore))
    refine ⟨congrArg (sortBy ImpactEntry.order) hsame, ?_⟩
    by_contra halone
    refine hmore (hlost fun site hsite hshared ↦ halone ⟨site, ?_, hshared⟩)
    rw [← hsame] at hsite
    exact ((perm_sortBy ImpactEntry.order _).map ImpactEntry.site).mem_iff.mpr hsite

/-- Without the fourth call site the report on the circle is incomplete. -/
theorem analyzeBy_truncated_circleOfCalls :
    let store := storeAfter circleOfCalls
    ∃ report whole : ImpactReport,
      Impact.analyze store 1 ⟨"c", none, 5⟩ ⟨fun _ ↦ false, 3⟩ = .found report ∧
      Impact.analyze store 1 ⟨"c", none, 5⟩ ⟨fun _ ↦ false, 100⟩ = .found whole ∧
      report.truncated = true ∧ report.entries.length < whole.entries.length := by
  have hunlimited : (storeAfter circleOfCalls).calls.length < 100 := by
    rw [length_calls_circleOfCalls]
    decide
  obtain ⟨report, whole, hfound, hwhole, hlost⟩ :=
    analyzeBy_truncated circleOfCalls 1 ⟨"c", none, 5⟩ ⟨fun _ ↦ false, 3⟩ (fun _ ↦ rfl) hunlimited
      (fun _ ↦ List.Perm.refl _) findSymbols_circleOfCalls
  have halone : ∀ first ∈ (storeAfter circleOfCalls).calls,
      ∀ second ∈ (storeAfter circleOfCalls).calls, first.site = second.site → first = second := by
    decide +kernel
  have htruncated : report.truncated = true := by
    rw [Impact.analyzeBy_of_found _ _ _ findSymbols_circleOfCalls] at hfound
    cases hfound
    cbv
  refine ⟨report, whole, hfound, hwhole, htruncated, (hlost htruncated).resolve_right ?_⟩
  rintro ⟨-, site, -, first, hfirst, second, hsecond, hne, ⟨-, hsite, -⟩, -, hsame, -⟩
  exact hne (halone first hfirst second hsecond (hsite.trans hsame.symm))

/-- A call whose argument calls again, so that both are at one site. -/
def nestedCall : List PipelineStep :=
  [.ensureProject "demo" "file:///demo",
    .ingestFile 1 "app.py"
      "def step(value):\n    pass\n\n\ndef run(value):\n    step(run(value))\n"]

/-- The calls are resolved to the two functions. -/
theorem linked_nestedCall : storeAfterSteps (nestedCall ++ [.link 1 100]) =
    { projects := [⟨1, "demo", "file:///demo"⟩]
      symbols := [⟨1, 1, none, "app.py", "app", .module, none, ⟨1, 6, 0, 65⟩, 0⟩,
        ⟨2, 1, some 1, "app.py", "step", .function, some "(value)", ⟨1, 2, 0, 25⟩, 1⟩,
        ⟨3, 1, some 1, "app.py", "run", .function, some "(value)", ⟨5, 6, 28, 64⟩, 1⟩]
      imports := []
      calls := [⟨1, 1, "app.py", 3, "step", 6, some 2⟩,
        ⟨2, 1, "app.py", 3, "run", 6, some 3⟩] } := by
  have hrows : let store := storeAfterSteps nestedCall
      let view := store.storedView 1 "app.py"
      store = ⟨[⟨1, "demo", "file:///demo"⟩],
        [⟨1, 1, none, "app.py", "app", .module, none, ⟨1, 6, 0, 65⟩, 0⟩,
          ⟨2, 1, some 1, "app.py", "step", .function, some "(value)", ⟨1, 2, 0, 25⟩, 1⟩,
          ⟨3, 1, some 1, "app.py", "run", .function, some "(value)", ⟨5, 6, 28, 64⟩, 1⟩], [],
        [⟨1, 1, "app.py", 3, "step", 6, none⟩, ⟨2, 1, "app.py", 3, "run", 6, none⟩]⟩ ∧
      view.IsSorted ∧ Resolution.bareTarget view 3 "step" = some 2 ∧
        Resolution.bareTarget view 3 "run" = some 3 := by
    decide +kernel
  rw [storeAfterSteps_link]
  generalize storeAfterSteps nestedCall = store at hrows
  obtain ⟨hstore, hsorted, hstep, hrun⟩ := hrows
  rw [← Store.fileView_of_isSorted hsorted] at hstep hrun
  have hfirst : Resolution.resolvedPlainly store 1 ⟨1, 1, "app.py", 3, "step", 6, none⟩ =
      ⟨1, 1, "app.py", 3, "step", 6, some 2⟩ := by
    rw [Resolution.resolvedPlainly, if_pos ⟨rfl, rfl⟩,
      Resolution.callSymbol_of_not_mem (by decide), hstep]
  have hsecond : Resolution.resolvedPlainly store 1 ⟨2, 1, "app.py", 3, "run", 6, none⟩ =
      ⟨2, 1, "app.py", 3, "run", 6, some 3⟩ := by
    rw [Resolution.resolvedPlainly, if_pos ⟨rfl, rfl⟩,
      Resolution.callSymbol_of_not_mem (by decide), hrun]
  have hcalls : store.calls = [⟨1, 1, "app.py", 3, "step", 6, none⟩,
      ⟨2, 1, "app.py", 3, "run", 6, none⟩] := hstore ▸ rfl
  rw [Resolution.linked_of_imports_eq_nil (by decide) (hstore ▸ rfl), hcalls, List.map_cons,
    List.map_cons, List.map_nil, hfirst, hsecond, hstore]

/-- At most one entry for the callers of `step`: the report is truncated, and it is the same without
that limit but for the mark. -/
theorem exists_truncated_nestedCall :
    let store := storeAfterSteps (nestedCall ++ [.link 1 100])
    ∃ report, Impact.analyze store 1 ⟨"step", none, 5⟩ ⟨fun _ ↦ false, 1⟩ = .found report ∧
      report.truncated = true ∧
      Impact.analyze store 1 ⟨"step", none, 5⟩ ⟨fun _ ↦ false, 100⟩ =
        .found { report with truncated := false } := by
  rw [linked_nestedCall]
  exact ⟨_, by cbv, by cbv, by cbv⟩

end SymbolGraph
