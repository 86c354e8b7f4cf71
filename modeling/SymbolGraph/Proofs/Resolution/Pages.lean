import SymbolGraph.Proofs.Store.Settle
import SymbolGraph.Resolution.Pages

/-!
# Paging settles every open row once

Going through the open rows of a project in pages comes to the same as settling all of them in the
store at the start (`settleAll_run`), and each of them is gone through once (`traceAll_run`). The
pages may have any size but zero, and the memory may hold anything, as long as by its means the rows
are told what they are told without it (`Finds`). A page ends at the id where the next one begins,
so the rows of a page are those open ones with ids between the two (`mem_openRows_iff`).

`tracePages` and `traceAll` do what `settlePages` and `settleAll` do, and tell besides which rows
were gone through (`settlePages_eq`, `settleAll_eq`).
-/

set_option autoImplicit false
set_option relaxedAutoImplicit false

namespace SymbolGraph.Resolution

open Store (Ledger)

variable {ρ σ : Type}

/-- With any memory that holds, a row is told its symbol, and the memory goes on holding. -/
def Finds (target : ρ → σ → Option Int × σ) (holds : σ → Prop) (symbolOf : ρ → Option Int) : Prop :=
  ∀ row memory, holds memory →
    (target row memory).1 = symbolOf row ∧ holds (target row memory).2

/-- The symbol of a row, for rows of a project with ids above one. -/
def beyond (ledger : Ledger ρ) (projectId after : Int) (symbolOf : ρ → Option Int) (row : ρ) :
    Option Int :=
  if ledger.projectId row = projectId ∧ after < ledger.id row then symbolOf row else none

/-- The symbol of a row, for rows of a project, unless pages have no size. -/
def within (ledger : Ledger ρ) (projectId : Int) (size : Nat) (symbolOf : ρ → Option Int)
    (row : ρ) : Option Int :=
  if ledger.projectId row = projectId ∧ 0 < size then symbolOf row else none

/-- Goes through the pages as `settlePages` does, and tells besides the rows it goes through. -/
def tracePages (ledger : Ledger ρ) (target : Store → ρ → σ → Option Int × σ) (projectId : Int)
    (size : Nat) : Nat → Int → σ → Store.Change (Nat × List ρ)
  | 0, _, _ => pure (0, [])
  | pages + 1, after, memory => do
    let store ← get
    let page := ledger.openRows store projectId after size
    match page.getLast? with
    | none => pure (0, [])
    | some last => do
      let (pairs, later) := targetPairs ledger.id (target store) page memory
      let changed ← ledger.resolveAll pairs
      let (others, visited) ← tracePages ledger target projectId size pages (ledger.id last) later
      pure (changed + others, page ++ visited)

/-- Resolves a project as `settleAll` does, and tells the rows that it goes through besides. -/
def traceAll (ledger : Ledger ρ) (target : Store → ρ → σ → Option Int × σ) (projectId : Int)
    (size : Nat) (memory : σ) : Store.Change (ResolutionStats × List ρ) := do
  let before ← get
  let pages := (ledger.rows before).length + 1
  let (newlyResolved, visited) ← tracePages ledger target projectId size pages 0 memory
  let after ← get
  pure ({ ledger.stats after projectId with newlyResolved }, visited)

/-- Without the rows that were gone through, the run is `settlePages`. -/
theorem settlePages_eq (ledger : Ledger ρ) (target : Store → ρ → σ → Option Int × σ)
    (projectId : Int) (size pages : Nat) (after : Int) (memory : σ) :
    settlePages ledger target projectId size pages after memory =
      Prod.fst <$> tracePages ledger target projectId size pages after memory := by
  induction pages generalizing after memory with
  | zero => rw [settlePages, tracePages, map_pure]
  | succ pages ih =>
    rw [settlePages, tracePages, map_bind]
    refine bind_congr fun store ↦ ?_
    cases hlast : (ledger.openRows store projectId after size).getLast? with
    | none => simp only [hlast, map_pure]
    | some last => simp only [hlast, ih, map_bind, map_pure, bind_map_left]

/-- Without the rows that were gone through, the run is `settleAll`. -/
theorem settleAll_eq (ledger : Ledger ρ) (target : Store → ρ → σ → Option Int × σ)
    (projectId : Int) (size : Nat) (memory : σ) :
    settleAll ledger target projectId size memory =
      Prod.fst <$> traceAll ledger target projectId size memory := by
  simp only [settleAll, traceAll, settlePages_eq, map_bind, map_pure, bind_map_left]

/-! ### A page -/

/-- The pairs of a page, each row with its symbol. -/
def pairsOf (id : ρ → Int) (symbolOf : ρ → Option Int) (page : List ρ) : List (Int × Int) :=
  page.filterMap fun row ↦ (symbolOf row).map fun symbolId ↦ (id row, symbolId)

section Page

variable {ledger : Ledger ρ} {symbolOf : ρ → Option Int}

/-- The pairs that are found are those of the rows with their symbols. -/
theorem targetPairs_of_finds {target : ρ → σ → Option Int × σ} {holds : σ → Prop}
    (hfinds : Finds target holds symbolOf) {memory : σ} (hmemory : holds memory) (id : ρ → Int)
    (page : List ρ) : (targetPairs id target page memory).1 = pairsOf id symbolOf page ∧
      holds (targetPairs id target page memory).2 := by
  induction page generalizing memory with
  | nil => exact ⟨rfl, hmemory⟩
  | cons row rest ih =>
    obtain ⟨hrow, hnext⟩ := hfinds row memory hmemory
    obtain ⟨hrest, hlast⟩ := ih hnext
    unfold targetPairs pairsOf
    rw [List.filterMap_cons]
    dsimp only
    rw [hrow]
    cases symbolOf row with
    | none => exact ⟨hrest, hlast⟩
    | some symbolId => exact ⟨congrArg (List.cons _) hrest, hlast⟩

open Classical in
/-- The pairs of a page tell the rows of the page their symbols, and other rows nothing. -/
theorem paired_pairsOf {page : List ρ} {row : ρ}
    (hids : ∀ other ∈ page, ledger.id other = ledger.id row → other = row) :
    ledger.paired (pairsOf ledger.id symbolOf page) row =
      if row ∈ page then symbolOf row else none := by
  induction page with
  | nil => rfl
  | cons other rest ih =>
    have hrest := ih fun third hthird ↦ hids third (List.mem_cons_of_mem other hthird)
    unfold pairsOf at hrest ⊢
    rw [List.filterMap_cons]
    cases hother : symbolOf other with
    | none =>
      rw [Option.map_none]
      dsimp only
      rw [hrest]
      by_cases hsame : row = other
      · rw [hsame, hother, ite_self, ite_self]
      · simp [hsame]
    | some symbolId =>
      rw [Option.map_some]
      dsimp only
      rw [Ledger.paired_cons, Ledger.paired_singleton, hrest]
      by_cases hid : ledger.id row = ledger.id other
      · have hsame := hids other List.mem_cons_self hid.symm
        simp [← hsame, hother]
      · have hsame : row ≠ other := fun heq ↦ hid (congrArg ledger.id heq)
        simp [hid, hsame]

/-- The rows of a page are open and beyond the id after which it begins. -/
theorem mem_rows_of_mem_openRows {store : Store} {projectId after : Int} {size : Nat} {row : ρ}
    (hrow : row ∈ ledger.openRows store projectId after size) :
    row ∈ ledger.rows store ∧ ledger.isOpen row = true ∧ after < ledger.id row := by
  obtain ⟨hstored, htest⟩ := List.mem_filter.mp (List.mem_of_mem_take hrow)
  rw [Bool.and_eq_true, Ledger.isOpenIn, Bool.and_eq_true, decide_eq_true_iff] at htest
  exact ⟨hstored, htest.1.2, htest.2⟩

/-- What the pairs of a page name is stored when the symbols of open rows are. -/
theorem hasSymbol_of_mem_pairsOf {store : Store}
    (hstored : ∀ row ∈ ledger.rows store, ledger.isOpen row = true →
      ∀ symbolId, symbolOf row = some symbolId → store.hasSymbol symbolId = true)
    (projectId after : Int) (size : Nat) :
    ∀ pair ∈ pairsOf ledger.id symbolOf (ledger.openRows store projectId after size),
      store.hasSymbol pair.2 = true := by
  intro pair hpair
  obtain ⟨row, hrow, hsome⟩ := List.mem_filterMap.mp hpair
  obtain ⟨symbolId, hsymbol, rfl⟩ := Option.map_eq_some_iff.mp hsome
  obtain ⟨hmem, hopen, -⟩ := mem_rows_of_mem_openRows hrow
  exact hstored row hmem hopen symbolId hsymbol

/-- The rows of a page are the open rows of the project from the id after which the page begins to
its last one. -/
theorem mem_openRows_iff {store : Store}
    (hascending : ((ledger.rows store).map ledger.id).Pairwise (· < ·)) {projectId after : Int}
    {size : Nat} {last : ρ}
    (hlast : (ledger.openRows store projectId after size).getLast? = some last) {row : ρ}
    (hrow : row ∈ ledger.rows store) (hopen : ledger.isOpen row = true) :
    row ∈ ledger.openRows store projectId after size ↔
      ledger.projectId row = projectId ∧ after < ledger.id row ∧
        ledger.id row ≤ ledger.id last := by
  unfold Ledger.openRows at hlast ⊢
  have hfound := (List.pairwise_map.mp hascending).filter fun row ↦
    ledger.isOpenIn projectId row && after < ledger.id row
  have hmem : row ∈ (ledger.rows store).filter (fun row ↦
      ledger.isOpenIn projectId row && after < ledger.id row) ↔
      ledger.projectId row = projectId ∧ after < ledger.id row := by
    simp [Ledger.isOpenIn, hrow, hopen]
  generalize (ledger.rows store).filter (fun row ↦
    ledger.isOpenIn projectId row && after < ledger.id row) = found at hlast hfound hmem ⊢
  rw [← List.take_append_drop size found] at hfound hmem
  obtain ⟨hpage, -, hbeyond⟩ := List.pairwise_append.mp hfound
  obtain ⟨earlier, hends⟩ := List.getLast?_eq_some_iff.mp hlast
  constructor
  · intro hinPage
    obtain ⟨hproject, hafter⟩ := hmem.mp (List.mem_append_left _ hinPage)
    refine ⟨hproject, hafter, ?_⟩
    rw [hends] at hpage hinPage
    rcases List.mem_append.mp hinPage with hearlier | hisLast
    · exact Int.le_of_lt ((List.pairwise_append.mp hpage).2.2 row hearlier last (by simp))
    · exact Int.le_of_eq (congrArg ledger.id (List.mem_singleton.mp hisLast))
  · rintro ⟨hproject, hafter, hle⟩
    rcases List.mem_append.mp (hmem.mpr ⟨hproject, hafter⟩) with hinPage | hlater
    · exact hinPage
    · have hlt := hbeyond last (List.mem_of_getLast? hlast) row hlater
      omega

end Page

/-! ### All pages -/

section Pages

variable {ledger : Ledger ρ} {target : Store → ρ → σ → Option Int × σ} {holds : σ → Prop}
  {symbolOf : ρ → Option Int} {store : Store}

/-- One page and the pages beyond it tell the open rows what all the pages tell them. -/
theorem beyond_eq_or (hascending : ((ledger.rows store).map ledger.id).Pairwise (· < ·))
    {projectId after : Int} {size : Nat} {last : ρ}
    (hlast : (ledger.openRows store projectId after size).getLast? = some last) {row : ρ}
    (hrow : row ∈ ledger.rows store) (hopen : ledger.isOpen row = true) :
    beyond ledger projectId after symbolOf row =
      (ledger.paired (pairsOf ledger.id symbolOf (ledger.openRows store projectId after size))
        row).or (beyond ledger projectId (ledger.id last) symbolOf row) := by
  classical
  have hpage := mem_openRows_iff hascending hlast hrow hopen
  have hids : ∀ other ∈ ledger.openRows store projectId after size,
      ledger.id other = ledger.id row → other = row := fun other hother hid ↦
    List.inj_on_of_nodup_map (hascending.imp fun hlt ↦ Int.ne_of_lt hlt)
      (mem_rows_of_mem_openRows hother).1 hrow hid
  rw [paired_pairsOf hids]
  have hafterLast := (mem_rows_of_mem_openRows (List.mem_of_getLast? hlast)).2.2
  unfold beyond
  by_cases hin : row ∈ ledger.openRows store projectId after size
  · obtain ⟨hproject, hafter, hle⟩ := hpage.mp hin
    have hnotBeyond : ¬ ledger.id last < ledger.id row := Int.not_lt.mpr hle
    simp [hin, hproject, hafter, hnotBeyond]
  · rw [if_neg hin, Option.none_or]
    have hsame : (ledger.projectId row = projectId ∧ after < ledger.id row) ↔
        ledger.projectId row = projectId ∧ ledger.id last < ledger.id row := by
      rw [hpage] at hin
      omega
    simp only [hsame]

/-- When a page is empty, no row of the project is open beyond the id where it begins. -/
theorem filter_eq_nil_of_getLast? {projectId after : Int} {size : Nat} (hsize : 0 < size)
    (hnone : (ledger.openRows store projectId after size).getLast? = none) :
    (ledger.rows store).filter (fun row ↦ ledger.isOpenIn projectId row && after < ledger.id row) =
      [] :=
  (List.take_eq_nil_iff.mp (List.getLast?_eq_none_iff.mp hnone)).resolve_left
    (Nat.pos_iff_ne_zero.mp hsize)

theorem beyond_eq_none {projectId after : Int} {size : Nat} (hsize : 0 < size)
    (hnone : (ledger.openRows store projectId after size).getLast? = none) :
    ∀ row ∈ ledger.rows store, ledger.isOpen row = true →
      beyond ledger projectId after symbolOf row = none := by
  intro row hrow hopen
  have hnot := List.filter_eq_nil_iff.mp (filter_eq_nil_of_getLast? hsize hnone) row hrow
  refine if_neg fun hbeyond ↦ hnot ?_
  simp [Ledger.isOpenIn, hopen, hbeyond]

/-- The open rows beyond an id are those of a page and then those beyond its last row. -/
theorem openRows_append (hascending : ((ledger.rows store).map ledger.id).Pairwise (· < ·))
    {projectId after : Int} {size : Nat} {last : ρ}
    (hlast : (ledger.openRows store projectId after size).getLast? = some last) :
    ledger.openRows store projectId after size ++ (ledger.rows store).filter
        (fun row ↦ ledger.isOpenIn projectId row && ledger.id last < ledger.id row) =
      (ledger.rows store).filter
        (fun row ↦ ledger.isOpenIn projectId row && after < ledger.id row) := by
  have hlastMem := List.mem_of_getLast? hlast
  have hafterLast := (mem_rows_of_mem_openRows hlastMem).2.2
  have hrest : (ledger.rows store).filter
      (fun row ↦ ledger.isOpenIn projectId row && ledger.id last < ledger.id row) =
      ((ledger.rows store).filter
        (fun row ↦ ledger.isOpenIn projectId row && after < ledger.id row)).filter
          (fun row ↦ ledger.id last < ledger.id row) := by
    rw [List.filter_filter]
    refine List.filter_congr fun row _ ↦ ?_
    rw [Bool.eq_iff_iff]
    simp only [Bool.and_eq_true, decide_eq_true_eq]
    exact ⟨fun hrow ↦ ⟨hrow.2, hrow.1, Int.lt_trans hafterLast hrow.2⟩,
      fun hrow ↦ ⟨hrow.2.1, hrow.1⟩⟩
  have hpage : ∀ row ∈ ledger.openRows store projectId after size,
      ledger.id row ≤ ledger.id last := by
    intro row hrow
    obtain ⟨hmem, hopen, -⟩ := mem_rows_of_mem_openRows hrow
    exact ((mem_openRows_iff hascending hlast hmem hopen).mp hrow).2.2
  have hsorted := (List.pairwise_map.mp hascending).filter fun row ↦
    ledger.isOpenIn projectId row && after < ledger.id row
  rw [hrest]
  unfold Ledger.openRows at hlastMem hpage ⊢
  generalize (ledger.rows store).filter (fun row ↦
    ledger.isOpenIn projectId row && after < ledger.id row) = found at hlastMem hpage hsorted ⊢
  rw [← List.take_append_drop size found] at hsorted
  have hbeyond := (List.pairwise_append.mp hsorted).2.2 last hlastMem
  have htaken : (found.take size).filter (fun row ↦ ledger.id last < ledger.id row) = [] := by
    refine List.filter_eq_nil_iff.mpr fun row hrow hlt ↦ ?_
    exact absurd (of_decide_eq_true hlt) (Int.not_lt.mpr (hpage row hrow))
  have hdropped : (found.drop size).filter (fun row ↦ ledger.id last < ledger.id row) =
      found.drop size :=
    List.filter_eq_self.mpr fun row hrow ↦ decide_eq_true (hbeyond row hrow)
  calc
    found.take size ++ found.filter (fun row ↦ ledger.id last < ledger.id row) =
        found.take size ++ (found.take size ++ found.drop size).filter
          (fun row ↦ ledger.id last < ledger.id row) := by rw [List.take_append_drop]
    _ = found.take size ++ found.drop size := by
      rw [List.filter_append, htaken, hdropped, List.nil_append]
    _ = found := List.take_append_drop size found

/-- Beyond the last row of a page are fewer open rows than beyond where the page began. -/
theorem countP_beyond_lt {projectId after : Int} {size : Nat} {last : ρ}
    (hlast : (ledger.openRows store projectId after size).getLast? = some last)
    (settled : ρ → Option Int) :
    (ledger.rows (ledger.settleRows settled store)).countP
        (fun row ↦ ledger.isOpenIn projectId row && ledger.id last < ledger.id row) <
      (ledger.rows store).countP
        (fun row ↦ ledger.isOpenIn projectId row && after < ledger.id row) := by
  have hinPage := List.mem_filter.mp (List.mem_of_mem_take (List.mem_of_getLast? hlast))
  have hafter := (mem_rows_of_mem_openRows (List.mem_of_getLast? hlast)).2.2
  rw [Ledger.rows_settleRows, List.countP_map]
  refine Store.countP_lt_countP ?_ hinPage.1 ?_ hinPage.2
  · intro row _ hrow
    simp only [Function.comp_apply, Ledger.isOpenIn, Ledger.projectId_settleWith,
      Ledger.id_settleWith, Ledger.isOpen_settleWith, Bool.and_eq_true, decide_eq_true_eq] at hrow ⊢
    exact ⟨⟨hrow.1.1, hrow.1.2.1⟩, Int.lt_trans hafter hrow.2⟩
  · simp [Ledger.id_settleWith]

/-- Settling rows does not touch those beyond an id that no found symbol is for. -/
theorem filter_settleRows {settled : ρ → Option Int} {projectId after : Int}
    (hnone : ∀ row ∈ ledger.rows store, after < ledger.id row → settled row = none) :
    (ledger.rows (ledger.settleRows settled store)).filter
        (fun row ↦ ledger.isOpenIn projectId row && after < ledger.id row) =
      (ledger.rows store).filter
        (fun row ↦ ledger.isOpenIn projectId row && after < ledger.id row) := by
  have hsame : ∀ row ∈ ledger.rows store, after < ledger.id row →
      ledger.settleWith settled row = row := fun row hrow hafter ↦
    Ledger.settleWith_of_none (hnone row hrow hafter)
  rw [Ledger.rows_settleRows]
  generalize ledger.rows store = rows at hsame ⊢
  induction rows with
  | nil => rfl
  | cons row rest ih =>
    have hrest := ih fun other hother ↦ hsame other (List.mem_cons_of_mem row hother)
    rw [List.map_cons, List.filter_cons, List.filter_cons, hrest]
    by_cases hafter : after < ledger.id row
    · rw [hsame row List.mem_cons_self hafter]
    · simp [Ledger.id_settleWith, hafter]

/-- The open rows beyond a page in the store where the page is settled are those of the store
before. -/
theorem filter_isOpenIn_settleRows
    (hascending : ((ledger.rows store).map ledger.id).Pairwise (· < ·))
    {projectId after : Int} {size : Nat} {last : ρ}
    (hlast : (ledger.openRows store projectId after size).getLast? = some last) :
    let page := ledger.openRows store projectId after size
    let settled := ledger.settleRows (ledger.paired (pairsOf ledger.id symbolOf page)) store
    page ++ (ledger.rows settled).filter
        (fun row ↦ ledger.isOpenIn projectId row && ledger.id last < ledger.id row) =
      (ledger.rows store).filter
        (fun row ↦ ledger.isOpenIn projectId row && after < ledger.id row) := by
  classical
  intro page settled
  have hnone : ∀ row ∈ ledger.rows store, ledger.id last < ledger.id row →
      ledger.paired (pairsOf ledger.id symbolOf page) row = none := by
    intro row hrow hbeyond
    have hids : ∀ other ∈ page, ledger.id other = ledger.id row → other = row :=
      fun other hother hid ↦ List.inj_on_of_nodup_map (hascending.imp fun hlt ↦ Int.ne_of_lt hlt)
        (mem_rows_of_mem_openRows hother).1 hrow hid
    rw [paired_pairsOf hids]
    refine if_neg fun hin ↦ ?_
    have hopen := (mem_rows_of_mem_openRows hin).2.1
    have hle := ((mem_openRows_iff hascending hlast hrow hopen).mp hin).2.2
    omega
  rw [filter_settleRows hnone]
  exact openRows_append hascending hlast

/-- Going through the pages settles every open row of the project beyond the id where they begin
with its symbol, counts the settled rows, and visits each of these open rows once. -/
theorem tracePages_run
    (hfinds : ∀ entries, Finds (target (ledger.put store entries)) holds symbolOf)
    (hstored : ∀ row ∈ ledger.rows store, ledger.isOpen row = true →
      ∀ symbolId, symbolOf row = some symbolId → store.hasSymbol symbolId = true)
    (hascending : ((ledger.rows store).map ledger.id).Pairwise (· < ·))
    {projectId : Int} {size : Nat} (hsize : 0 < size) {pages : Nat} {after : Int}
    (hpages : (ledger.rows store).countP
      (fun row ↦ ledger.isOpenIn projectId row && after < ledger.id row) < pages)
    {memory : σ} (hmemory : holds memory) :
    (tracePages ledger target projectId size pages after memory).run store =
      .ok ((ledger.settledCount (beyond ledger projectId after symbolOf) (ledger.rows store),
          (ledger.rows store).filter
            (fun row ↦ ledger.isOpenIn projectId row && after < ledger.id row)),
        ledger.settleRows (beyond ledger projectId after symbolOf) store) := by
  -- each page settles a row or ends the run, so more pages than open rows are never needed
  induction pages generalizing store after memory with
  | zero => exact absurd hpages (Nat.not_lt_zero _)
  | succ pages ih =>
    unfold tracePages
    rw [Store.run_get_bind]
    dsimp only
    cases hlast : (ledger.openRows store projectId after size).getLast? with
    | none =>
      have hnone : ∀ row ∈ ledger.rows store, ledger.isOpen row = true →
          beyond ledger projectId after symbolOf row = none := beyond_eq_none hsize hlast
      rw [Ledger.settleRows_of_forall_none hnone, Ledger.settledCount_of_forall_none hnone,
        filter_eq_nil_of_getLast? hsize hlast]
      rfl
    | some last =>
      obtain ⟨hpairs, hlater⟩ := targetPairs_of_finds (ledger.put_rows store ▸ hfinds _) hmemory
        ledger.id (ledger.openRows store projectId after size)
      have hresolve := Ledger.resolveAll_run_of_stored
        (hasSymbol_of_mem_pairsOf hstored projectId after size)
        (hascending.imp fun hlt ↦ Int.ne_of_lt hlt)
      have hrest := @ih (ledger.settleRows (ledger.paired (pairsOf ledger.id symbolOf
        (ledger.openRows store projectId after size))) store) ?_ ?_ ?_ (ledger.id last) ?_ _ hlater
      · dsimp only
        rw [hpairs]
        refine Store.run_bind_eq_ok_iff.mpr ⟨_, _, hresolve, ?_⟩
        refine Store.run_bind_eq_ok_iff.mpr ⟨_, _, hrest, ?_⟩
        have hboth := fun row hrow hopen ↦
          @beyond_eq_or _ _ symbolOf _ hascending _ _ _ _ hlast row hrow hopen
        rw [Store.run_pure_eq_ok_iff, filter_isOpenIn_settleRows hascending hlast,
          Ledger.rows_settleRows, Ledger.settledCount_add hboth,
          Ledger.settleRows_settleRows hboth]
      · intro entries
        rw [Ledger.put_settleRows]
        exact hfinds entries
      · intro row hrow hopen symbolId hsymbol
        rw [Ledger.hasSymbol_settleRows]
        exact hstored row (Ledger.mem_rows_of_isOpen row hrow hopen) hopen symbolId hsymbol
      · rw [Ledger.ids_settleRows]
        exact hascending
      · exact Nat.lt_of_lt_of_le (countP_beyond_lt hlast _) (Nat.le_of_lt_succ hpages)

/-- With pages of no size nothing is settled. -/
theorem settlePages_zero_run (projectId : Int) (pages : Nat) (after : Int) (memory : σ) :
    (settlePages ledger target projectId 0 pages after memory).run store = .ok (0, store) := by
  cases pages with
  | zero => rfl
  | succ pages =>
    have hnone : (ledger.openRows store projectId after 0).getLast? = none := by
      rw [Ledger.openRows, List.take_zero, List.getLast?_nil]
    unfold settlePages
    rw [Store.run_get_bind]
    dsimp only
    rw [hnone]
    rfl

/-- Resolving a project goes once through its open rows, settles each with its symbol, and counts
the settled rows. -/
theorem traceAll_run (hfinds : ∀ entries, Finds (target (ledger.put store entries)) holds symbolOf)
    (hstored : ∀ row ∈ ledger.rows store, ledger.isOpen row = true →
      ∀ symbolId, symbolOf row = some symbolId → store.hasSymbol symbolId = true)
    (hascending : ((ledger.rows store).map ledger.id).Pairwise (· < ·))
    (hpositive : ∀ row ∈ ledger.rows store, 1 ≤ ledger.id row)
    (projectId : Int) {size : Nat} (hsize : 0 < size) {memory : σ} (hmemory : holds memory) :
    let settled := ledger.settleRows (within ledger projectId size symbolOf) store
    (traceAll ledger target projectId size memory).run store =
      .ok (({ ledger.stats settled projectId with
            newlyResolved :=
              ledger.settledCount (within ledger projectId size symbolOf) (ledger.rows store) },
          (ledger.rows store).filter (ledger.isOpenIn projectId)),
        settled) := by
  have hpages : (ledger.rows store).countP
      (fun row ↦ ledger.isOpenIn projectId row && 0 < ledger.id row) <
        (ledger.rows store).length + 1 :=
    Nat.lt_succ_of_le List.countP_le_length
  have hwithin : ∀ row ∈ ledger.rows store,
      beyond ledger projectId 0 symbolOf row = within ledger projectId size symbolOf row := by
    intro row hrow
    have hid : 0 < ledger.id row := hpositive row hrow
    simp [beyond, within, hid, hsize]
  have hopen : (ledger.rows store).filter
      (fun row ↦ ledger.isOpenIn projectId row && 0 < ledger.id row) =
      (ledger.rows store).filter (ledger.isOpenIn projectId) := by
    refine List.filter_congr fun row hrow ↦ ?_
    have hid : 0 < ledger.id row := hpositive row hrow
    simp [hid]
  have hrun := tracePages_run hfinds hstored hascending hsize hpages hmemory
  rw [Ledger.settleRows_congr hwithin, Ledger.settledCount_congr hwithin, hopen] at hrun
  dsimp only
  unfold traceAll
  rw [Store.run_get_bind]
  exact Store.run_bind_eq_ok_iff.mpr ⟨_, _, hrun, rfl⟩

/-- Resolving a project settles its open rows, each with its symbol, and counts the settled rows. -/
theorem settleAll_run (hfinds : ∀ entries, Finds (target (ledger.put store entries)) holds symbolOf)
    (hstored : ∀ row ∈ ledger.rows store, ledger.isOpen row = true →
      ∀ symbolId, symbolOf row = some symbolId → store.hasSymbol symbolId = true)
    (hascending : ((ledger.rows store).map ledger.id).Pairwise (· < ·))
    (hpositive : ∀ row ∈ ledger.rows store, 1 ≤ ledger.id row)
    (projectId : Int) (size : Nat) {memory : σ} (hmemory : holds memory) :
    let settled := ledger.settleRows (within ledger projectId size symbolOf) store
    (settleAll ledger target projectId size memory).run store =
      .ok ({ ledger.stats settled projectId with
          newlyResolved :=
            ledger.settledCount (within ledger projectId size symbolOf) (ledger.rows store) },
        settled) := by
  dsimp only
  rcases Nat.eq_zero_or_pos size with rfl | hsize
  · have hnone : ∀ row ∈ ledger.rows store, ledger.isOpen row = true →
        within ledger projectId 0 symbolOf row = none := fun row _ _ ↦ by simp [within]
    unfold settleAll
    rw [Store.run_get_bind]
    refine Store.run_bind_eq_ok_iff.mpr ⟨_, _, settlePages_zero_run .., ?_⟩
    rw [Ledger.settleRows_of_forall_none hnone, Ledger.settledCount_of_forall_none hnone]
    rfl
  · rw [settleAll_eq, StateT.run_map,
      traceAll_run hfinds hstored hascending hpositive projectId hsize hmemory]
    rfl

end Pages

end SymbolGraph.Resolution
