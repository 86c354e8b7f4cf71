import SymbolGraph.Proofs.Impact.Traversal
import SymbolGraph.Proofs.Pipeline.Isolation

/-!
# What nothing calls has no impact

Dead code and impact are told by different questions. `uncalledSymbols` asks whether any resolved
call of any project reaches a symbol, and `callersOf` for the calls of one project with the symbols
around them. In a store that ordinary runs reach they are complements (`callersOf_eq_nil_iff`):
what reaches a symbol is a call of its project, and the symbol around a call exists. So a function,
method or class is listed as dead code exactly when its name and its file are not left out and an
analysis from it meets no call site (`mem_select_iff_entries_eq_nil`). A smaller limit shows the
first of the same list.
-/

set_option autoImplicit false
set_option relaxedAutoImplicit false

namespace SymbolGraph

/-! ### Analyses that meet nothing -/

theorem sortBy_eq_nil_iff {α : Type} {order : α → α → Ordering} {items : List α} :
    sortBy order items = [] ↔ items = [] := by
  rw [← List.length_eq_zero_iff, (perm_sortBy order items).length_eq, List.length_eq_zero_iff]

namespace Impact

variable {targetId : Int} {callers : List Int → List CallerEdge} {limits : ImpactLimits}

/-- A site that was met stays met. -/
theorem site_mem_follow {remaining depth : Nat} {frontier : List Int} {met : List ImpactEntry}
    {site : CallSite} (hsite : site ∈ met.map ImpactEntry.site) :
    site ∈ (follow callers limits targetId remaining depth frontier met).1.map
      ImpactEntry.site :=
  ((prefix_follow callers limits targetId remaining depth frontier met).map
    ImpactEntry.site).subset hsite

/-- A level takes in its first site, when the result budget allows for any. -/
theorem site_mem_visit_cons {maxResults depth : Nat} (hresults : 1 ≤ maxResults)
    (edge : CallerEdge) (rest : List CallerEdge) :
    edge.site ∈ (visit maxResults targetId depth (edge :: rest) ⟨[], [], false⟩).entries.map
      ImpactEntry.site := by
  have hbudget : ¬ maxResults ≤ ([] : List ImpactEntry).length := Nat.not_le.mpr hresults
  rw [visit, if_neg hbudget, if_neg (by simp)]
  refine site_mem_visit_of_mem ?_
  rw [map_site_add]
  exact List.mem_append_right _ List.mem_cons_self

/-- An analysis within its budgets meets nothing exactly when nothing calls the symbol. -/
theorem follow_eq_nil_iff (hresults : 1 ≤ limits.maxResults)
    (htime : ∀ depth, limits.isTimeUp depth = false) {maxDepth : Nat} (hdepth : 1 ≤ maxDepth) :
    (follow callers limits targetId maxDepth 1 [targetId] []).1 = [] ↔ callers [targetId] = [] := by
  obtain ⟨remaining, rfl⟩ := Nat.exists_eq_add_of_le' hdepth
  have hbegins : ¬ limits.isTimeUp 1 = true := Bool.eq_false_iff.mp (htime 1)
  rw [follow_succ (List.cons_ne_nil targetId [] ∘ List.isEmpty_iff.mp) hbegins]
  cases callers [targetId] with
  | nil =>
    rw [visit]
    dsimp only
    rw [if_neg Bool.false_ne_true, follow_nil]
    simp
  | cons edge rest =>
    have hmet := @site_mem_visit_cons targetId _ 1 hresults edge rest
    generalize visit limits.maxResults targetId 1 (edge :: rest) ⟨[], [], false⟩ = level at hmet ⊢
    refine iff_of_false (fun hnil ↦ ?_) (List.cons_ne_nil edge rest)
    dsimp only at hnil
    split at hnil
    · rw [show level.entries = [] from hnil] at hmet
      cases hmet
    · have hkept : edge.site ∈ (follow callers limits targetId remaining 2 level.next
          level.entries).1.map ImpactEntry.site := site_mem_follow hmet
      rw [hnil] at hkept
      cases hkept

/-- The report of a query for a symbol has no entries exactly when nothing in the project calls the
symbol. -/
theorem exists_report {store : Store} {projectId : Int} {query : ImpactQuery}
    (hresults : 1 ≤ limits.maxResults) (htime : ∀ depth, limits.isTimeUp depth = false)
    (hdepth : 1 ≤ query.maxDepth) {target : Symbol} {others : List Symbol}
    (htarget : store.findSymbols projectId query.symbol query.file = target :: others) :
    ∃ report, analyze store projectId query limits = .found report ∧
      (report.entries = [] ↔ store.callersOf projectId [target.id] = []) := by
  rw [analyze, analyzeBy, htarget]
  refine ⟨_, rfl, ?_⟩
  rw [← follow_eq_nil_iff hresults htime hdepth]
  exact sortBy_eq_nil_iff

end Impact

/-! ### Callers and calls -/

namespace Store

variable {store : Store}

/-- A symbol has no callers in its project exactly when no call of any project reaches it. -/
theorem callersOf_eq_nil_iff (hstore : store.WellFormed) (hpartitioned : store.IsPartitioned)
    {symbol : Symbol} (hsymbol : symbol ∈ store.symbols) :
    store.callersOf symbol.projectId [symbol.id] = [] ↔ store.isCalled symbol.id = false := by
  rw [List.eq_nil_iff_forall_not_mem, Bool.eq_false_iff, isCalled, Ne, List.any_eq_true]
  constructor
  · rintro hnone ⟨call, hcall, htarget⟩
    have htarget := beq_iff_eq.mp htarget
    have hproject := (hpartitioned.calls call hcall symbol.id htarget).projectId_eq hstore hsymbol
      rfl
    obtain ⟨caller, hcaller⟩ := exists_symbol?_of_hasSymbol (hstore.anchoredCalls call hcall).2.1
    refine hnone ⟨symbol.id, caller.summary, call.filePath, call.line⟩ ?_
    rw [mem_callersOf_iff]
    exact ⟨List.mem_singleton_self _, call, hcall, hproject.symm,
      callerEdge?_eq_some_iff.mpr ⟨htarget, caller, hcaller, rfl, rfl, rfl⟩⟩
  · rintro hnone edge hedge
    obtain ⟨hcallee, call, hcall, -, hedge⟩ := mem_callersOf_iff.mp hedge
    have htarget := (callerEdge?_eq_some_iff.mp hedge).1
    rw [List.mem_singleton.mp hcallee] at htarget
    exact hnone ⟨call, hcall, beq_iff_eq.mpr htarget⟩

end Store

/-! ### Dead code -/

instance : Std.TransCmp Symbol.compareByName :=
  inferInstanceAs <| Std.TransCmp <|
    compareLex (compareOn fun symbol : Symbol ↦ symbol.filePath) <|
    compareLex (compareOn fun symbol : Symbol ↦ symbol.name) <|
    compareOn fun symbol : Symbol ↦ symbol.id

/-- By file, name and id. -/
def SymbolSummary.compareByName (left right : SymbolSummary) : Ordering :=
  (compare left.filePath right.filePath).then <|
  (compare left.name right.name).then <|
  compare left.id right.id

theorem Symbol.id_eq_of_compareByName_eq {left right : Symbol}
    (heq : left.compareByName right = .eq) : left.id = right.id := by
  simp only [compareByName, Ordering.then_eq_eq, Std.LawfulEqOrd.compare_eq_iff_eq] at heq
  exact heq.2.2

namespace DeadCode

variable {store : Store} {projectId : Int} {isMagic isExcluded : String → Bool} {limit : Nat}

/-- The kinds of symbols that dead-code reports list. -/
def IsCandidate (symbol : Symbol) : Prop :=
  symbol.kind = .function ∨ symbol.kind = .method ∨ symbol.kind = .classType

theorem contains_candidateKinds_iff {symbol : Symbol} :
    candidateKinds.contains symbol.kind.text = true ↔ IsCandidate symbol := by
  unfold IsCandidate
  cases symbol.kind <;> decide

theorem mem_uncalledSymbols_iff {symbol : Symbol} :
    symbol ∈ store.uncalledSymbols projectId candidateKinds ↔ symbol ∈ store.symbols ∧
      symbol.projectId = projectId ∧ IsCandidate symbol ∧ store.isCalled symbol.id = false := by
  rw [Store.uncalledSymbols, mem_sortBy_iff, List.mem_filter, Bool.and_eq_true, Bool.and_eq_true,
    beq_iff_eq, contains_candidateKinds_iff, Bool.not_eq_true']
  simp only [and_assoc]

theorem total_select (limit other : Nat) :
    (select store projectId isMagic isExcluded limit).total =
      (select store projectId isMagic isExcluded other).total :=
  rfl

theorem symbols_select_of_total_le (hlimit : (select store projectId isMagic isExcluded limit).total
      ≤ limit) : (select store projectId isMagic isExcluded limit).symbols =
    ((store.uncalledSymbols projectId candidateKinds).filter fun symbol ↦
      !isMagic symbol.name && !isExcluded symbol.filePath).map Symbol.summary :=
  List.take_of_length_le hlimit

/-- A stored symbol is listed when nothing calls it and its name and its file are not left out. -/
theorem summary_mem_select_iff (hstore : store.WellFormed) {symbol : Symbol}
    (hsymbol : symbol ∈ store.symbols)
    (hlimit : (select store projectId isMagic isExcluded limit).total ≤ limit) :
    symbol.summary ∈ (select store projectId isMagic isExcluded limit).symbols ↔
      symbol.projectId = projectId ∧ IsCandidate symbol ∧ isMagic symbol.name = false ∧
        isExcluded symbol.filePath = false ∧ store.isCalled symbol.id = false := by
  rw [symbols_select_of_total_le hlimit, List.mem_map]
  have hmem : (∃ other ∈ (store.uncalledSymbols projectId candidateKinds).filter fun symbol ↦
      !isMagic symbol.name && !isExcluded symbol.filePath, other.summary = symbol.summary) ↔
      symbol ∈ (store.uncalledSymbols projectId candidateKinds).filter fun symbol ↦
        !isMagic symbol.name && !isExcluded symbol.filePath := by
    refine ⟨?_, fun hlisted ↦ ⟨symbol, hlisted, rfl⟩⟩
    rintro ⟨other, hother, hsame⟩
    have hstored := (mem_uncalledSymbols_iff.mp (List.mem_filter.mp hother).1).1
    rwa [← hstore.symbols.eq_of_id_eq hstored hsymbol (congrArg SymbolSummary.id hsame)]
  rw [hmem, List.mem_filter, mem_uncalledSymbols_iff, Bool.and_eq_true, Bool.not_eq_true',
    Bool.not_eq_true']
  constructor
  · rintro ⟨⟨-, hproject, hkind, hcalled⟩, hmagic, hexcluded⟩
    exact ⟨hproject, hkind, hmagic, hexcluded, hcalled⟩
  · rintro ⟨hproject, hkind, hmagic, hexcluded, hcalled⟩
    exact ⟨⟨hsymbol, hproject, hkind, hcalled⟩, hmagic, hexcluded⟩

/-- The list ascends by file, name and id. -/
theorem pairwise_select (hstore : store.WellFormed) :
    (select store projectId isMagic isExcluded limit).symbols.Pairwise fun left right ↦
      left.compareByName right = .lt := by
  refine List.Pairwise.sublist (List.take_sublist _ _) (List.pairwise_map.mpr ?_)
  have huncalled : (store.uncalledSymbols projectId candidateKinds).Pairwise fun left right ↦
      left.compareByName right = .lt :=
    pairwise_sortBy_lt (fun _ _ ↦ Symbol.id_eq_of_compareByName_eq)
      (hstore.symbols.nodup_ids_filter _)
  exact huncalled.filter _

/-- A limit shows the first of the list, and tells whether there are more. -/
theorem select_eq (hlimit : (select store projectId isMagic isExcluded limit).total ≤ limit)
    (smaller : Nat) : select store projectId isMagic isExcluded smaller =
      let whole := select store projectId isMagic isExcluded limit
      ⟨whole.symbols.take smaller, whole.total, smaller < whole.total⟩ := by
  dsimp only
  rw [symbols_select_of_total_le hlimit]
  rfl

end DeadCode

/-- In every store that ordinary runs over any projects reach, take a query within its budgets whose
target is a function, a method or a class. The target is listed as dead code, by a limit that leaves
room for all, exactly when its name is not magic, its file is not excluded and the query reports no
entries. The list ascends by file, name and id, and a smaller limit shows the first of it. -/
theorem mem_select_iff_entries_eq_nil (steps : List PipelineStep) (projectId : Int)
    (isMagic isExcluded : String → Bool) {query : ImpactQuery} {limits : ImpactLimits}
    {symbol : Symbol} {others : List Symbol} {limit : Nat}
    (htarget : (storeAfterSteps steps).findSymbols projectId query.symbol query.file =
      symbol :: others)
    (hkind : symbol.kind = .function ∨ symbol.kind = .method ∨ symbol.kind = .classType)
    (hdepth : 1 ≤ query.maxDepth) (hresults : 1 ≤ limits.maxResults)
    (htime : ∀ depth, limits.isTimeUp depth = false)
    (hlimit : (DeadCode.select (storeAfterSteps steps) projectId isMagic isExcluded limit).total ≤
      limit) :
    let listed := DeadCode.select (storeAfterSteps steps) projectId isMagic isExcluded
    (∃ report, Impact.analyze (storeAfterSteps steps) projectId query limits = .found report ∧
      (symbol.summary ∈ (listed limit).symbols ↔ isMagic symbol.name = false ∧
        isExcluded symbol.filePath = false ∧ report.entries = [])) ∧
    ((listed limit).symbols.Pairwise fun left right ↦ left.compareByName right = .lt) ∧
    ∀ smaller, (listed smaller).symbols = (listed limit).symbols.take smaller ∧
      (listed smaller).total = (listed limit).total ∧
      ((listed smaller).truncated = true ↔ smaller < (listed limit).total) := by
  have hstore : (storeAfterSteps steps).WellFormed := wellFormed_storeAfter _
  have hpartitioned := isPartitioned_storeAfterSteps steps
  have hfound : symbol ∈ (storeAfterSteps steps).symbolsNamed projectId query.symbol :=
    Store.mem_symbolsNamed_of_mem_findSymbols (htarget ▸ List.mem_cons_self)
  obtain ⟨hsymbol, rfl, -⟩ := Store.mem_symbolsNamed_iff.mp hfound
  refine ⟨?_, DeadCode.pairwise_select hstore, fun smaller ↦ ?_⟩
  · obtain ⟨report, hreport, hentries⟩ := Impact.exists_report hresults htime hdepth htarget
    refine ⟨report, hreport, ?_⟩
    rw [DeadCode.summary_mem_select_iff hstore hsymbol hlimit, hentries,
      Store.callersOf_eq_nil_iff hstore hpartitioned hsymbol]
    constructor
    · rintro ⟨-, -, hshown⟩
      exact hshown
    · exact fun hshown ↦ ⟨rfl, hkind, hshown⟩
  · rw [DeadCode.select_eq hlimit smaller]
    exact ⟨rfl, rfl, decide_eq_true_iff⟩

/-- A file calls one of its functions and not the other. -/
def oneIdleFunction : List PipelineStep :=
  [.ensureProject "demo" "file:///demo",
    .ingestFile 1 "lib.py" "def used():\n    pass\n\n\ndef idle():\n    pass\n\n\nused()\n"]

/-- Both functions are listed exactly when their analyses meet no call site. -/
theorem mem_select_oneIdleFunction :
    let store := storeAfterSteps (oneIdleFunction ++ [.link 1 100])
    let used : Symbol := ⟨2, 1, some 1, "lib.py", "used", .function, some "()", ⟨1, 2, 0, 20⟩, 1⟩
    let idle : Symbol := ⟨3, 1, some 1, "lib.py", "idle", .function, some "()", ⟨5, 6, 23, 43⟩, 1⟩
    let listed := DeadCode.select store 1 (fun _ ↦ false) (fun _ ↦ false)
    ∀ symbol ∈ [used, idle], store.findSymbols 1 symbol.name none = [symbol] ∧ ∃ report,
      Impact.analyze store 1 ⟨symbol.name, none, 3⟩ ⟨fun _ ↦ false, 10⟩ = .found report ∧
        (symbol.summary ∈ (listed (listed 0).total).symbols ↔ report.entries = []) := by
  dsimp only
  have hequiv := @mem_select_iff_entries_eq_nil (oneIdleFunction ++ [.link 1 100]) 1
    (fun _ ↦ false) (fun _ ↦ false)
  rw [storeAfterSteps_link] at hequiv ⊢
  intro symbol hsymbol
  obtain ⟨hkind, hnamed⟩ : symbol.kind = .function ∧
      (storeAfterSteps oneIdleFunction).symbols.filter (fun other ↦
        other.projectId == 1 && other.name == symbol.name) = [symbol] := by
    revert symbol
    decide +kernel
  generalize storeAfterSteps oneIdleFunction = earlier at hequiv hnamed ⊢
  have htarget : (Resolution.linked earlier 1 100).findSymbols 1 symbol.name none = [symbol] := by
    have hlinked : (Resolution.linked earlier 1 100).symbols = earlier.symbols := rfl
    rw [← hlinked] at hnamed
    refine (Store.symbolsNamed_of_pairwise ?_).trans hnamed
    rw [hnamed]
    exact List.pairwise_singleton _ _
  generalize Resolution.linked earlier 1 100 = store at hequiv htarget ⊢
  obtain ⟨⟨report, hreport, hlisted⟩, -, -⟩ := @hequiv ⟨symbol.name, none, 3⟩ ⟨fun _ ↦ false, 10⟩
    symbol [] _ htarget (.inl hkind) (Nat.le_add_left 1 2) (Nat.le_add_left 1 9) (fun _ ↦ rfl)
    (Nat.le_of_eq (DeadCode.total_select _ 0))
  refine ⟨htarget, report, hreport, hlisted.trans ?_⟩
  exact ⟨fun hshown ↦ hshown.2.2, fun hnil ↦ ⟨rfl, rfl, hnil⟩⟩

end SymbolGraph
