import SymbolGraph.Proofs.Store.Change
import SymbolGraph.Proofs.Store.Table

/-!
# Settling rows

What it does to a table to settle the rows of some pairs, told for all rows at once: every open row
whose id is in a pair is settled with the symbol of the first such pair, and every other row stays
as it is (`resolveAll_run`). The count is the number of rows that were settled. The pairs may be any
pairs of stored symbols; that ids name single rows matters for the count alone.
-/

set_option autoImplicit false
set_option relaxedAutoImplicit false

namespace SymbolGraph.Store.Ledger

variable {ρ : Type} (ledger : Ledger ρ)

@[simp]
theorem isOpen_imports (entry : Import) : imports.isOpen entry = !entry.isResolved :=
  rfl

@[simp]
theorem projectId_calls (call : Call) : calls.projectId call = call.projectId :=
  rfl

@[simp]
theorem isOpen_calls (call : Call) : calls.isOpen call = call.target.isNone :=
  rfl

/-- The row settled with the symbol that is found for it, if it is open and one is found. -/
def settleWith (target : ρ → Option Int) (row : ρ) : ρ :=
  match target row with
  | some symbolId => if ledger.isOpen row then ledger.settle row symbolId else row
  | none => row

/-- The store with the rows of the table settled. -/
def settleRows (target : ρ → Option Int) (store : Store) : Store :=
  ledger.put store ((ledger.rows store).map (ledger.settleWith target))

/-- How many open rows a symbol is found for. -/
def settledCount (target : ρ → Option Int) (rows : List ρ) : Nat :=
  rows.countP fun row ↦ ledger.isOpen row && (target row).isSome

/-- A symbol that is found for an open row is not stored. -/
def dangles (target : ρ → Option Int) (store : Store) : Bool :=
  (ledger.rows store).any fun row ↦
    ledger.isOpen row && (target row).any fun symbolId ↦ !store.hasSymbol symbolId

/-- The symbol of the first pair for a row. -/
def paired (pairs : List (Int × Int)) (row : ρ) : Option Int :=
  pairs.lookup (ledger.id row)

section Rows

variable {ledger} {target : ρ → Option Int} {row : ρ}

@[simp]
theorem settleWith_of_closed (hclosed : ledger.isOpen row = false) :
    ledger.settleWith target row = row := by
  unfold settleWith
  cases target row with
  | none => rfl
  | some symbolId => exact if_neg (by simp [hclosed])

@[simp]
theorem settleWith_of_none (hnone : target row = none) : ledger.settleWith target row = row := by
  rw [settleWith, hnone]

theorem settleWith_of_some {symbolId : Int} (hopen : ledger.isOpen row = true)
    (hsome : target row = some symbolId) :
    ledger.settleWith target row = ledger.settle row symbolId := by
  unfold settleWith
  rw [hsome]
  exact if_pos hopen

/-- A row is left as it is, or it was open and is settled with what is found for it. -/
theorem settleWith_cases (target : ρ → Option Int) (row : ρ) :
    ledger.settleWith target row = row ∨
      ledger.isOpen row = true ∧ ∃ symbolId, target row = some symbolId ∧
        ledger.settleWith target row = ledger.settle row symbolId := by
  cases htarget : target row with
  | none => exact Or.inl (settleWith_of_none htarget)
  | some symbolId =>
    cases hopen : ledger.isOpen row with
    | false => exact Or.inl (settleWith_of_closed hopen)
    | true => exact Or.inr ⟨rfl, symbolId, rfl, settleWith_of_some hopen htarget⟩

theorem id_settleWith : ledger.id (ledger.settleWith target row) = ledger.id row := by
  rcases settleWith_cases target row with hsame | ⟨-, symbolId, -, hsettled⟩
  · rw [hsame]
  · rw [hsettled, ledger.id_settle]

theorem projectId_settleWith :
    ledger.projectId (ledger.settleWith target row) = ledger.projectId row := by
  rcases settleWith_cases target row with hsame | ⟨-, symbolId, -, hsettled⟩
  · rw [hsame]
  · rw [hsettled, ledger.projectId_settle]

/-- Only rows that nothing is found for are open afterwards. -/
theorem isOpen_settleWith : ledger.isOpen (ledger.settleWith target row) =
    (ledger.isOpen row && (target row).isNone) := by
  cases htarget : target row with
  | none => simp [settleWith_of_none htarget]
  | some symbolId =>
    cases hopen : ledger.isOpen row with
    | false => simp [hopen]
    | true => simp [settleWith_of_some hopen htarget, ledger.isOpen_settle]

/-- Settling twice is settling once, what is found first coming first. -/
theorem settleWith_settleWith {first second both : ρ → Option Int}
    (hboth : ledger.isOpen row = true → both row = (first row).or (second row)) :
    ledger.settleWith second (ledger.settleWith first row) = ledger.settleWith both row := by
  cases hopen : ledger.isOpen row with
  | false => rw [settleWith_of_closed hopen, settleWith_of_closed hopen, settleWith_of_closed hopen]
  | true =>
    have hrow := hboth hopen
    cases hfirst : first row with
    | none =>
      rw [hfirst, Option.none_or] at hrow
      rw [settleWith_of_none hfirst]
      unfold settleWith
      rw [hrow]
    | some symbolId =>
      rw [hfirst, Option.some_or] at hrow
      rw [settleWith_of_some hopen hfirst, settleWith_of_some hopen hrow]
      exact settleWith_of_closed (ledger.isOpen_settle row symbolId)

/-- The rows that are settled at the first time and at the second add up. -/
theorem settledCount_add {first second both : ρ → Option Int} {rows : List ρ}
    (hboth : ∀ row ∈ rows, ledger.isOpen row = true → both row = (first row).or (second row)) :
    ledger.settledCount first rows +
        ledger.settledCount second (rows.map (ledger.settleWith first)) =
      ledger.settledCount both rows := by
  induction rows with
  | nil => rfl
  | cons row rest ih =>
    have hrest := ih fun other hother ↦ hboth other (List.mem_cons_of_mem row hother)
    have hrow := hboth row List.mem_cons_self
    simp only [settledCount, List.map_cons, List.countP_cons, isOpen_settleWith] at hrest ⊢
    cases hopen : ledger.isOpen row with
    | false => simpa using hrest
    | true =>
      rw [hrow hopen]
      cases hfirst : first row with
      | none =>
        rw [settleWith_of_none hfirst]
        simp only [Option.isSome_none, Option.isNone_none, Option.none_or, Bool.and_false,
          Bool.and_true, Bool.true_and, Bool.false_eq_true, if_false, Nat.add_zero]
        omega
      | some symbolId =>
        simp only [Option.isSome_some, Option.isNone_some, Option.some_or, Bool.and_false,
          Bool.and_true, Bool.false_and, Bool.false_eq_true, if_false, if_true, Nat.add_zero]
        omega

theorem settledCount_congr {first second : ρ → Option Int} {rows : List ρ}
    (hsame : ∀ row ∈ rows, first row = second row) :
    ledger.settledCount first rows = ledger.settledCount second rows := by
  refine List.countP_congr fun row hrow ↦ ?_
  rw [hsame row hrow]

theorem settledCount_of_forall_none {rows : List ρ}
    (hnone : ∀ row ∈ rows, ledger.isOpen row = true → target row = none) :
    ledger.settledCount target rows = 0 := by
  refine List.countP_eq_zero.mpr fun row hrow hsettled ↦ ?_
  rw [Bool.and_eq_true] at hsettled
  rw [hnone row hrow hsettled.1] at hsettled
  cases hsettled.2

/-- A row is settled exactly when it changes, because settled rows are not open. -/
theorem isSettled_iff_ne : (ledger.isOpen row && (target row).isSome) = true ↔
    row ≠ ledger.settleWith target row := by
  cases hopen : ledger.isOpen row with
  | false => simp [settleWith_of_closed hopen]
  | true =>
    cases htarget : target row with
    | none => simp [settleWith_of_none htarget]
    | some symbolId =>
      rw [settleWith_of_some hopen htarget]
      refine iff_of_true rfl fun hsame ↦ ?_
      rw [hsame, ledger.isOpen_settle] at hopen
      cases hopen

/-- The rows that are settled are those that change. -/
theorem settledCount_eq_countP_ne [DecidableEq ρ] (rows : List ρ) :
    ledger.settledCount target rows =
      (rows.zip (rows.map (ledger.settleWith target))).countP fun pair ↦ pair.1 ≠ pair.2 := by
  induction rows with
  | nil => rfl
  | cons row rest ih =>
    have hrow : (ledger.isOpen row && (target row).isSome) =
        decide (row ≠ ledger.settleWith target row) :=
      Bool.eq_iff_iff.mpr (isSettled_iff_ne.trans decide_eq_true_iff.symm)
    rw [settledCount, List.countP_cons, List.map_cons, List.zip_cons_cons, List.countP_cons, hrow,
      ← ih, settledCount]

end Rows

/-! ### Settled tables -/

section Tables

variable {ledger} {target : ρ → Option Int} {store : Store}

theorem rows_settleRows : ledger.rows (ledger.settleRows target store) =
    (ledger.rows store).map (ledger.settleWith target) :=
  ledger.rows_put store _

theorem put_settleRows (entries : List ρ) :
    ledger.put (ledger.settleRows target store) entries = ledger.put store entries :=
  ledger.put_put store _ entries

theorem hasSymbol_settleRows (id : Int) :
    (ledger.settleRows target store).hasSymbol id = store.hasSymbol id := by
  rw [hasSymbol, settleRows, ledger.symbols_put, hasSymbol]

theorem ids_settleRows : (ledger.rows (ledger.settleRows target store)).map ledger.id =
    (ledger.rows store).map ledger.id := by
  rw [rows_settleRows, List.map_map]
  exact List.map_congr_left fun row _ ↦ id_settleWith

/-- An open row that a symbol is found for is settled with it. -/
theorem settle_mem_settleRows {row : ρ} {symbolId : Int} (hrow : row ∈ ledger.rows store)
    (hopen : ledger.isOpen row = true) (hfound : target row = some symbolId) :
    ledger.settle row symbolId ∈ ledger.rows (ledger.settleRows target store) := by
  rw [rows_settleRows, ← settleWith_of_some hopen hfound]
  exact List.mem_map_of_mem hrow

theorem settleRows_congr {first second : ρ → Option Int}
    (hsame : ∀ row ∈ ledger.rows store, first row = second row) :
    ledger.settleRows first store = ledger.settleRows second store := by
  refine congrArg (ledger.put store) (List.map_congr_left fun row hrow ↦ ?_)
  rw [settleWith, settleWith, hsame row hrow]

/-- Where nothing is found for any open row, the store stays as it is. -/
theorem settleRows_of_forall_none
    (hnone : ∀ row ∈ ledger.rows store, ledger.isOpen row = true → target row = none) :
    ledger.settleRows target store = store := by
  have hrows : (ledger.rows store).map (ledger.settleWith target) = ledger.rows store := by
    refine (List.map_congr_left fun row hrow ↦ ?_).trans (List.map_id _)
    cases hopen : ledger.isOpen row with
    | false => exact settleWith_of_closed hopen
    | true => exact settleWith_of_none (hnone row hrow hopen)
  rw [settleRows, hrows, ledger.put_rows]

theorem settleRows_settleRows {first second both : ρ → Option Int}
    (hboth : ∀ row ∈ ledger.rows store, ledger.isOpen row = true →
      both row = (first row).or (second row)) :
    ledger.settleRows second (ledger.settleRows first store) = ledger.settleRows both store := by
  rw [settleRows, put_settleRows, rows_settleRows, List.map_map]
  refine congrArg (ledger.put store) (List.map_congr_left fun row hrow ↦ ?_)
  exact settleWith_settleWith (hboth row hrow)

theorem dangles_eq_true_iff : ledger.dangles target store = true ↔
    ∃ row ∈ ledger.rows store, ledger.isOpen row = true ∧
      ∃ symbolId, target row = some symbolId ∧ store.hasSymbol symbolId = false := by
  simp [dangles, Option.any_eq_true]

theorem dangles_of_forall_stored
    (hstored : ∀ row ∈ ledger.rows store, ledger.isOpen row = true →
      ∀ symbolId, target row = some symbolId → store.hasSymbol symbolId = true) :
    ledger.dangles target store = false := by
  refine Bool.eq_false_iff.mpr fun hdangles ↦ ?_
  obtain ⟨row, hrow, hopen, symbolId, htarget, hmissing⟩ := dangles_eq_true_iff.mp hdangles
  rw [hstored row hrow hopen symbolId htarget] at hmissing
  cases hmissing

theorem dangles_of_forall_none
    (hnone : ∀ row ∈ ledger.rows store, ledger.isOpen row = true → target row = none) :
    ledger.dangles target store = false := by
  refine dangles_of_forall_stored fun row hrow hopen symbolId htarget ↦ ?_
  rw [hnone row hrow hopen] at htarget
  cases htarget

/-- What rows have, and what settling gives them, the rows have afterwards. -/
theorem forall_mem_settleRows {holds : ρ → Prop} (hrows : ∀ row ∈ ledger.rows store, holds row)
    (hsettle : ∀ row ∈ ledger.rows store, ∀ symbolId, target row = some symbolId →
      holds (ledger.settle row symbolId)) :
    ∀ row ∈ ledger.rows (ledger.settleRows target store), holds row := by
  intro settled hmem
  rw [rows_settleRows] at hmem
  obtain ⟨row, hrow, rfl⟩ := List.mem_map.mp hmem
  rcases settleWith_cases target row with hsame | ⟨-, symbolId, hfound, hsettled⟩
  · rw [hsame]
    exact hrows row hrow
  · rw [hsettled]
    exact hsettle row hrow symbolId hfound

/-- A row that is open afterwards was there before. -/
theorem mem_rows_of_isOpen : ∀ row ∈ ledger.rows (ledger.settleRows target store),
    ledger.isOpen row = true → row ∈ ledger.rows store := by
  refine forall_mem_settleRows (fun row hrow _ ↦ hrow) fun row _ symbolId _ hopen ↦ ?_
  rw [ledger.isOpen_settle] at hopen
  cases hopen

/-- Nothing is found for the rows that are open afterwards. -/
theorem eq_none_of_isOpen_settleRows {row : ρ}
    (hrow : row ∈ ledger.rows (ledger.settleRows target store)) (hopen : ledger.isOpen row = true) :
    target row = none := by
  rw [rows_settleRows] at hrow
  obtain ⟨before, -, rfl⟩ := List.mem_map.mp hrow
  rw [isOpen_settleWith, Bool.and_eq_true, Option.isNone_iff_eq_none] at hopen
  rw [settleWith_of_none hopen.2]
  exact hopen.2

/-- Rows that are settled at the first time are not looked at again. -/
theorem dangles_eq_or {first second both : ρ → Option Int}
    (hboth : ∀ row ∈ ledger.rows store, ledger.isOpen row = true →
      both row = (first row).or (second row)) :
    ledger.dangles both store =
      (ledger.dangles first store || ledger.dangles second (ledger.settleRows first store)) := by
  rw [Bool.eq_iff_iff, Bool.or_eq_true, dangles_eq_true_iff, dangles_eq_true_iff,
    dangles_eq_true_iff]
  constructor
  · rintro ⟨row, hrow, hopen, symbolId, htarget, hmissing⟩
    rw [hboth row hrow hopen] at htarget
    cases hfirst : first row with
    | some own =>
      rw [hfirst, Option.some_or] at htarget
      exact Or.inl ⟨row, hrow, hopen, symbolId, hfirst.trans htarget, hmissing⟩
    | none =>
      rw [hfirst, Option.none_or] at htarget
      have hleft : row ∈ ledger.rows (ledger.settleRows first store) :=
        rows_settleRows ▸ List.mem_map.mpr ⟨row, hrow, settleWith_of_none hfirst⟩
      exact Or.inr ⟨row, hleft, hopen, symbolId, htarget,
        (hasSymbol_settleRows symbolId).trans hmissing⟩
  · rintro (⟨row, hrow, hopen, symbolId, htarget, hmissing⟩ |
      ⟨row, hrow, hopen, symbolId, htarget, hmissing⟩)
    · refine ⟨row, hrow, hopen, symbolId, ?_, hmissing⟩
      rw [hboth row hrow hopen, htarget, Option.some_or]
    · have hbefore := mem_rows_of_isOpen row hrow hopen
      refine ⟨row, hbefore, hopen, symbolId, ?_,
        (hasSymbol_settleRows symbolId).symm.trans hmissing⟩
      rw [hboth row hbefore hopen, eq_none_of_isOpen_settleRows hrow hopen, Option.none_or, htarget]

end Tables

/-! ### Pairs -/

variable {ledger} {store : Store}

theorem paired_singleton (rowId symbolId : Int) (row : ρ) :
    ledger.paired [(rowId, symbolId)] row =
      if ledger.id row = rowId then some symbolId else none := by
  unfold paired
  rw [List.lookup_cons]
  by_cases hid : ledger.id row = rowId
  · simp [hid]
  · simp [hid, beq_false_of_ne hid]

/-- Pairs are tried in their order. -/
theorem paired_cons (pair : Int × Int) (pairs : List (Int × Int)) (row : ρ) :
    ledger.paired (pair :: pairs) row =
      (ledger.paired [(pair.1, pair.2)] row).or (ledger.paired pairs row) := by
  rw [paired_singleton, paired, List.lookup_cons, paired]
  by_cases hid : ledger.id row = pair.1
  · simp [hid]
  · simp [hid, beq_false_of_ne hid]

/-- The one pair settles the open rows of its id. -/
theorem settleWith_singleton (rowId symbolId : Int) (row : ρ) :
    ledger.settleWith (ledger.paired [(rowId, symbolId)]) row =
      if ledger.isOpenAt rowId row then ledger.settle row symbolId else row := by
  unfold settleWith isOpenAt
  rw [paired_singleton]
  by_cases hid : ledger.id row = rowId
  · simp [hid]
  · simp [hid]

/-- The rows of one id that are open count as one, or as none. -/
theorem settledCount_singleton {rows : List ρ} (hids : (rows.map ledger.id).Nodup)
    (rowId symbolId : Int) : ledger.settledCount (ledger.paired [(rowId, symbolId)]) rows =
      if rows.any (ledger.isOpenAt rowId) then 1 else 0 := by
  have hcount : ledger.settledCount (ledger.paired [(rowId, symbolId)]) rows =
      rows.countP (ledger.isOpenAt rowId) := by
    refine List.countP_congr fun row _ ↦ ?_
    rw [paired_singleton, isOpenAt_eq_true_iff]
    by_cases hid : ledger.id row = rowId
    · simp [hid]
    · simp [hid]
  have hle : rows.countP (ledger.isOpenAt rowId) ≤ 1 := by
    have hone := List.nodup_iff_count_le_one.mp hids rowId
    rw [List.count, List.countP_map] at hone
    refine Nat.le_trans (List.countP_mono_left fun row _ hrow ↦ ?_) hone
    simpa using (isOpenAt_eq_true_iff.mp hrow).1
  rw [hcount]
  split
  · rename_i hany
    have hpos := List.countP_pos_iff.mpr (List.any_eq_true.mp hany)
    omega
  · rename_i hnone
    refine List.countP_eq_zero.mpr fun row hrow hopen ↦ ?_
    exact hnone (List.any_eq_true.mpr ⟨row, hrow, hopen⟩)

theorem dangles_singleton (rowId symbolId : Int) :
    ledger.dangles (ledger.paired [(rowId, symbolId)]) store =
      ((ledger.rows store).any (ledger.isOpenAt rowId) && !store.hasSymbol symbolId) := by
  rw [dangles, List.and_any_distrib_right]
  refine List.any_congr rfl fun row ↦ ?_
  rw [paired_singleton, isOpenAt]
  by_cases hid : ledger.id row = rowId
  · simp [hid]
  · simp [hid]

/-- Settling one row tells whether there was an open one, and is refused when there is one and the
symbol is not stored. -/
theorem resolve_run (rowId symbolId : Int) (hids : ((ledger.rows store).map ledger.id).Nodup) :
    (ledger.resolve rowId symbolId).run store =
      if ledger.dangles (ledger.paired [(rowId, symbolId)]) store then .error .brokenReference
      else .ok (ledger.settledCount (ledger.paired [(rowId, symbolId)]) (ledger.rows store),
        ledger.settleRows (ledger.paired [(rowId, symbolId)]) store) := by
  rw [settledCount_singleton hids, dangles_singleton]
  have hrows : (ledger.rows store).map (ledger.settleWith (ledger.paired [(rowId, symbolId)])) =
      amendWhere (ledger.isOpenAt rowId) (ledger.settle · symbolId) (ledger.rows store) :=
    List.map_congr_left fun row _ ↦ settleWith_singleton rowId symbolId row
  unfold resolve settleRows
  rw [run_get_bind, hrows]
  dsimp only
  split
  · rename_i hopen
    rw [hopen]
    cases store.hasSymbol symbolId with
    | false => rfl
    | true => rfl
  · rename_i hnone
    rw [Bool.eq_false_iff.mpr hnone, amendWhere_of_forall_not, ledger.put_rows]
    · rfl
    · intro row hrow
      exact Bool.eq_false_iff.mpr fun hopen ↦ hnone (List.any_eq_true.mpr ⟨row, hrow, hopen⟩)

/-- Settling rows settles each open row with the symbol of the first pair for it, and counts the
settled rows. It is refused as a whole when one of these symbols is not stored, whatever was settled
before that pair. -/
theorem resolveAll_run (pairs : List (Int × Int))
    (hids : ((ledger.rows store).map ledger.id).Nodup) :
    (ledger.resolveAll pairs).run store =
      if ledger.dangles (ledger.paired pairs) store then .error .brokenReference
      else .ok (ledger.settledCount (ledger.paired pairs) (ledger.rows store),
        ledger.settleRows (ledger.paired pairs) store) := by
  unfold resolveAll
  induction pairs generalizing store with
  | nil =>
    have hnone : ∀ row ∈ ledger.rows store, ledger.isOpen row = true →
        ledger.paired [] row = none := fun _ _ _ ↦ rfl
    rw [settleRows_of_forall_none hnone, settledCount_of_forall_none hnone,
      dangles_of_forall_none hnone]
    rfl
  | cons pair rest ih =>
    have hboth : ∀ row ∈ ledger.rows store, ledger.isOpen row = true →
        ledger.paired (pair :: rest) row =
          (ledger.paired [(pair.1, pair.2)] row).or (ledger.paired rest row) :=
      fun row _ _ ↦ paired_cons pair rest row
    have hfirst := resolve_run pair.1 pair.2 hids
    have hrest := @ih (ledger.settleRows (ledger.paired [(pair.1, pair.2)]) store) (by
      rw [ids_settleRows]
      exact hids)
    rw [total, StateT.run_bind, hfirst, dangles_eq_or hboth]
    cases hdangles : ledger.dangles (ledger.paired [(pair.1, pair.2)]) store with
    | true => rfl
    | false =>
      rw [Bool.false_or, if_neg Bool.false_ne_true]
      change (total (fun pair ↦ ledger.resolve pair.1 pair.2) rest >>= fun others ↦
        pure (_ + others)).run _ = _
      rw [StateT.run_bind, hrest]
      cases ledger.dangles (ledger.paired rest)
          (ledger.settleRows (ledger.paired [(pair.1, pair.2)]) store) with
      | true => rfl
      | false =>
        rw [if_neg Bool.false_ne_true, if_neg Bool.false_ne_true, rows_settleRows,
          ← settledCount_add hboth, ← settleRows_settleRows hboth]
        rfl

/-- Settling rows with stored symbols is not refused. -/
theorem resolveAll_run_of_stored {pairs : List (Int × Int)}
    (hsymbols : ∀ pair ∈ pairs, store.hasSymbol pair.2 = true)
    (hids : ((ledger.rows store).map ledger.id).Nodup) :
    (ledger.resolveAll pairs).run store =
      .ok (ledger.settledCount (ledger.paired pairs) (ledger.rows store),
        ledger.settleRows (ledger.paired pairs) store) := by
  rw [resolveAll_run pairs hids, dangles_of_forall_stored, if_neg Bool.false_ne_true]
  intro row _ _ symbolId hpaired
  obtain ⟨earlier, later, rfl, -⟩ := List.lookup_eq_some_iff.mp hpaired
  exact hsymbols _ (List.mem_append_right earlier List.mem_cons_self)

end SymbolGraph.Store.Ledger
