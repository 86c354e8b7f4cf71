import SymbolGraph.Proofs.Impact.Traversal
import SymbolGraph.Proofs.Order
import SymbolGraph.Proofs.Pipeline.Operation

/-!
# Impact reports are exact

A report on a symbol that no budget cut short has the sites of the project's calls to all symbols
that are nearer to it than the depth of the query, one entry for each site, in strictly ascending
order, and counts them (`ImpactReport.IsExact`, `analyzeBy_found`). The order in which call sites
are looked up does not matter.
-/

set_option autoImplicit false
set_option relaxedAutoImplicit false

namespace SymbolGraph

open Impact

/-- The report has one entry for each site of a call to a symbol that is nearer to the target than
the depth, in strictly ascending order, and its counts are those of the entries. -/
structure ImpactReport.IsExact (store : Store) (projectId targetId : Int) (maxDepth : Nat)
    (report : ImpactReport) : Prop where
  sites : ∀ site, site ∈ report.entries.map ImpactEntry.site ↔ ∃ calleeId distance,
    store.CallsAt projectId site calleeId ∧
      store.IsDistance projectId targetId distance calleeId ∧ distance < maxDepth
  once : (report.entries.map ImpactEntry.site).Nodup
  nearest : ∀ entry ∈ report.entries, entry.IsNearest store projectId targetId
  sorted : report.entries.Pairwise fun left right ↦ left.order right = .lt
  direct : report.direct = report.entries.countP fun entry ↦ entry.depth = 1
  ripple : report.ripple = report.entries.countP fun entry ↦ 1 < entry.depth
  depths : (report.byDepth.map (·.depth)).Pairwise (· < ·)
  byDepth : ∀ summary, summary ∈ report.byDepth ↔ 0 < summary.callers ∧
    summary.callers = report.entries.countP fun entry ↦ entry.depth = summary.depth
  nothing : maxDepth = 0 → report.entries = []

/-! ### The order of entries -/

instance : Std.TransCmp ImpactEntry.order :=
  inferInstanceAs <| Std.TransCmp <|
    compareLex (compareOn fun entry : ImpactEntry ↦ entry.depth) <|
    compareLex (compareOn fun entry : ImpactEntry ↦ entry.filePath) <|
    compareLex (compareOn fun entry : ImpactEntry ↦ entry.caller.name) <|
    compareLex (compareOn fun entry : ImpactEntry ↦ entry.line) <|
    compareOn fun entry : ImpactEntry ↦ entry.caller.id

/-- Entries that compare equal are for the same site. -/
theorem ImpactEntry.site_eq_of_order_eq {left right : ImpactEntry}
    (heq : left.order right = .eq) : left.site = right.site := by
  simp only [order, Ordering.then_eq_eq, Std.LawfulEqOrd.compare_eq_iff_eq] at heq
  obtain ⟨-, hfile, -, hline, hcaller⟩ := heq
  rw [ImpactEntry.site, ImpactEntry.site, hfile, hline, hcaller]

/-- Entries in order have their depths in order. -/
theorem ImpactEntry.depth_le_of_order {left right : ImpactEntry}
    (hle : (left.order right).isLE = true) : left.depth ≤ right.depth := by
  rw [order, Ordering.isLE_then_iff_and] at hle
  exact Nat.isLE_compare.mp hle.1

namespace Impact

/-! ### Counts -/

variable {entries : List ImpactEntry}

/-- Depths begin at one, so an entry that is not direct is deeper. -/
theorem length_sub_countP_isDirect (hdepths : ∀ entry ∈ entries, 1 ≤ entry.depth) :
    entries.length - entries.countP ImpactEntry.isDirect =
      entries.countP fun entry ↦ 1 < entry.depth := by
  have hdirect : entries.countP (fun entry ↦ !entry.isDirect) =
      entries.countP fun entry ↦ 1 < entry.depth := by
    refine List.countP_congr fun entry hentry ↦ ?_
    have hdepth := hdepths entry hentry
    rw [ImpactEntry.isDirect, Bool.not_eq_true', beq_eq_false_iff_ne, decide_eq_true_iff]
    omega
  have hlength := List.length_eq_countP_add_countP ImpactEntry.isDirect (l := entries)
  rw [← hdirect]
  simp only [Bool.not_eq_true, Bool.decide_eq_false] at hlength
  omega

/-- The summary lists the depths in the order of sorted entries. -/
theorem pairwise_summarize
    (hsorted : entries.Pairwise fun left right ↦ left.depth ≤ right.depth) :
    ((summarize entries).map (·.depth)).Pairwise (· < ·) := by
  have hdepths : (summarize entries).map (·.depth) = (entries.map (·.depth)).eraseDups := by
    rw [summarize, List.map_map]
    exact List.map_id _
  rw [hdepths]
  exact (pairwise_eraseDups (List.pairwise_map.mpr hsorted)).imp fun hpair ↦
    Nat.lt_of_le_of_ne hpair.1 hpair.2

/-- The summary has the depths that occur, with the number of their entries. -/
theorem mem_summarize_iff {summary : DepthSummary} :
    summary ∈ summarize entries ↔ 0 < summary.callers ∧
      summary.callers = entries.countP fun entry ↦ entry.depth = summary.depth := by
  obtain ⟨depth, count⟩ := summary
  simp only [summarize, List.mem_map, List.mem_eraseDups, DepthSummary.mk.injEq]
  constructor
  · rintro ⟨_, ⟨entry, hentry, rfl⟩, rfl, rfl⟩
    refine ⟨List.countP_pos_iff.mpr ⟨entry, hentry, by simp⟩, ?_⟩
    exact List.countP_congr fun _ _ ↦ by simp
  · rintro ⟨hpositive, hcount⟩
    rw [hcount] at hpositive
    obtain ⟨entry, hentry, hdepth⟩ := List.countP_pos_iff.mp hpositive
    refine ⟨depth, ⟨entry, hentry, of_decide_eq_true hdepth⟩, rfl, ?_⟩
    rw [hcount]
    exact List.countP_congr fun _ _ ↦ by simp

/-! ### Reports -/

variable {store : Store} {projectId targetId : Int} {reach : Nat}

/-- A report has as many entries as were met. -/
theorem length_entries_report (target : SymbolSummary) (ambiguousWith maxDepth : Nat)
    (entries : List ImpactEntry) (truncated : Bool) :
    (report target ambiguousWith maxDepth entries truncated).entries.length = entries.length :=
  (perm_sortBy ImpactEntry.order entries).length_eq

/-- A query whose target is found has the report on what the traversal from the target meets. -/
theorem analyzeBy_of_found (callers : List Int → List CallerEdge) (query : ImpactQuery)
    (limits : ImpactLimits) {target : Symbol} {others : List Symbol}
    (htarget : store.findSymbols projectId query.symbol query.file = target :: others) :
    analyzeBy callers store projectId query limits =
      .found (report target.summary others.length query.maxDepth
        (follow callers limits target.id query.maxDepth 1 [target.id] []).1
        (follow callers limits target.id query.maxDepth 1 [target.id] []).2) := by
  rw [analyzeBy, htarget]

/-- What was met is met in any order. -/
theorem Met.perm {sorted : List ImpactEntry} (hmet : Met store projectId targetId reach entries)
    (hperm : sorted.Perm entries) : Met store projectId targetId reach sorted where
  sites := fun site ↦ ((hperm.map ImpactEntry.site).mem_iff).trans (hmet.sites site)
  once := (hperm.map ImpactEntry.site).nodup_iff.mpr hmet.once
  nearest := fun entry hentry ↦ hmet.nearest entry (hperm.mem_iff.mp hentry)

theorem Met.eq_nil (hmet : Met store projectId targetId 0 entries) : entries = [] := by
  refine List.eq_nil_iff_forall_not_mem.mpr fun entry hentry ↦ ?_
  obtain ⟨calleeId, distance, -, -, hlt⟩ :=
    (hmet.sites entry.site).mp (List.mem_map_of_mem hentry)
  exact Nat.not_lt_zero distance hlt

/-- The report on all sites within a depth is exact. -/
theorem Met.isExact_report (hmet : Met store projectId targetId reach entries)
    (target : SymbolSummary) (ambiguousWith maxDepth : Nat) (truncated : Bool) :
    (report target ambiguousWith maxDepth entries truncated).IsExact store projectId targetId
      reach := by
  have hsorted := hmet.perm (perm_sortBy ImpactEntry.order entries)
  have hdepths : ∀ entry ∈ sortBy ImpactEntry.order entries, 1 ≤ entry.depth := by
    intro entry hentry
    obtain ⟨distance, hdepth, -⟩ := (hsorted.nearest entry hentry).callee
    omega
  refine ⟨hsorted.sites, hsorted.once, hsorted.nearest, ?_, rfl, ?_, ?_, ?_, ?_⟩
  · exact pairwise_sortBy_lt (fun _ _ ↦ ImpactEntry.site_eq_of_order_eq) hmet.once
  · exact length_sub_countP_isDirect hdepths
  · exact pairwise_summarize ((pairwise_sortBy entries).imp ImpactEntry.depth_le_of_order)
  · exact fun summary ↦ mem_summarize_iff
  · rintro rfl
    exact hsorted.eq_nil

end Impact

/-- In every store that operations reach, a query whose target is found has a report, of no more
entries than there are calls. Only a budget cuts it short, and otherwise it is exact, whatever order
call sites are looked up in. -/
theorem analyzeBy_found (operations : List Operation) (projectId : Int) (query : ImpactQuery)
    (limits : ImpactLimits) {callers : List Int → List CallerEdge}
    (hcallers : ∀ frontier,
      (callers frontier).Perm ((storeAfter operations).callersOf projectId frontier))
    {target : Symbol} {others : List Symbol}
    (htarget : (storeAfter operations).findSymbols projectId query.symbol query.file =
      target :: others) :
    ∃ report, analyzeBy callers (storeAfter operations) projectId query limits = .found report ∧
      report.entries.length ≤ (storeAfter operations).calls.length ∧
      (report.truncated = true →
        (∃ level, limits.isTimeUp level = true) ∨ limits.maxResults ≤ report.entries.length) ∧
      (report.truncated = false →
        report.IsExact (storeAfter operations) projectId target.id query.maxDepth) := by
  have hstore := wellFormed_storeAfter operations
  have hfrontier : ∀ id, id ∈ [target.id] ↔
      (storeAfter operations).IsDistance projectId target.id 0 id := by
    intro id
    rw [List.mem_singleton, Store.isDistance_zero_iff]
  rw [analyzeBy, htarget]
  refine ⟨_, rfl, ?_, fun htruncated ↦ ?_, fun hgoes ↦ ?_⟩
  · refine Nat.le_trans (Nat.le_of_eq (perm_sortBy ImpactEntry.order _).length_eq) ?_
    exact (onCallSites_follow hstore hcallers (onCallSites_nil _)).length_le
  · have hbudget := budget_of_stopped htruncated
    rwa [← (perm_sortBy ImpactEntry.order _).length_eq] at hbudget
  · have hmet := met_follow hstore hcallers met_nil hfrontier hgoes
    rw [Nat.zero_add] at hmet
    exact hmet.isExact_report target.summary others.length query.maxDepth _

/-- A function that takes one line. -/
def Declaration.function (name : String) (line : Int) : Declaration where
  tag := 0
  parent := none
  kind := .function
  name := name
  signature := none
  span := ⟨line, line, 0, 0⟩

/-- Functions `a`, `b` and `c` that call one another in a circle, and `d` that calls `c`. -/
def circleOfCalls : List Operation :=
  [.ensureProject "demo" "file:///demo",
    .writeFile ⟨1, "loop.py"⟩ <|
      .symbol none (.function "a" 1) fun _ ↦
      .symbol none (.function "b" 4) fun _ ↦
      .symbol none (.function "c" 7) fun _ ↦
      .symbol none (.function "d" 10) fun _ ↦
      .call 1 "b" 2 fun _ ↦
      .call 2 "c" 5 fun _ ↦
      .call 3 "a" 8 fun _ ↦
      .call 4 "c" 11 fun _ ↦
      .finish (.ok ()),
    .resolveCalls [(1, 2), (2, 3), (3, 1), (4, 3)]]

/-- The name `c` stands for the third function. -/
theorem findSymbols_circleOfCalls : (storeAfter circleOfCalls).findSymbols 1 "c" none =
    [⟨3, 1, none, "loop.py", "c", .function, none, ⟨7, 7, 0, 0⟩, 0⟩] := by
  decide +kernel

theorem length_calls_circleOfCalls : (storeAfter circleOfCalls).calls.length = 4 := by
  decide +kernel

/-- The callers of `c`, whose edges come in the reverse order, make an exact report. -/
theorem analyzeBy_circleOfCalls :
    ∃ report, analyzeBy (fun frontier ↦ ((storeAfter circleOfCalls).callersOf 1 frontier).reverse)
        (storeAfter circleOfCalls) 1 ⟨"c", none, 5⟩ ⟨fun _ ↦ false, 100⟩ = .found report ∧
      report.truncated = false ∧ report.IsExact (storeAfter circleOfCalls) 1 3 5 := by
  obtain ⟨report, hfound, hlength, hbudget, hexact⟩ :=
    analyzeBy_found circleOfCalls 1 ⟨"c", none, 5⟩ ⟨fun _ ↦ false, 100⟩
      (fun _ ↦ List.reverse_perm _) findSymbols_circleOfCalls
  have hcalls := length_calls_circleOfCalls
  have hgoes : report.truncated = false := by
    refine Bool.eq_false_iff.mpr fun htruncated ↦ ?_
    rcases hbudget htruncated with ⟨level, htime⟩ | hspent
    · cases htime
    · change 100 ≤ report.entries.length at hspent
      omega
  exact ⟨report, hfound, hgoes, hexact hgoes⟩

end SymbolGraph
