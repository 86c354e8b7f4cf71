import SymbolGraph.Proofs.Pipeline.Operation

/-!
# Calls are resolved as by plain look-ups

Resolving the calls of a project goes through them page by page and remembers what it looked up. It
comes to the same as taking each open call once and looking everything up afresh in the store as it
was at the start (`calls_run_storeAfter`), whatever the size of the pages, and however often the
remembered files are forgotten: a project may have any number of them.
-/

set_option autoImplicit false
set_option relaxedAutoImplicit false

namespace SymbolGraph

open Store (Ledger)

namespace Resolution

/-- Resolves the open calls of a project, and tells besides which calls it went through. -/
def traceCalls (projectId : Int) (size : Nat) : Store.Change (ResolutionStats × List Call) :=
  traceAll .calls (fun store ↦ callTarget (cachedLookup store projectId)) projectId size ⟨[], []⟩

/-- Resolving calls is what `traceCalls` does. -/
theorem calls_eq (projectId : Int) (size : Nat) :
    calls projectId size = Prod.fst <$> traceCalls projectId size :=
  settleAll_eq ..

/-- The call with the symbol that is found for it by plain look-ups, if it is an open call of the
project. -/
def resolvedPlainly (store : Store) (projectId : Int) (call : Call) : Call :=
  if call.projectId = projectId ∧ call.target = none then
    { call with target := callSymbol store projectId call }
  else call

variable {store : Store} {projectId : Int} {size : Nat}

/-- Settling a call with what is found for it is resolving it plainly. -/
theorem settleWith_within (hsize : 0 < size) (call : Call) :
    Ledger.calls.settleWith (within .calls projectId size (callSymbol store projectId)) call =
      resolvedPlainly store projectId call := by
  unfold resolvedPlainly
  by_cases hproject : call.projectId = projectId
  · have hfound : within .calls projectId size (callSymbol store projectId) call =
        callSymbol store projectId call := if_pos ⟨hproject, hsize⟩
    cases hopen : call.target with
    | some symbolId =>
      have hclosed : Ledger.calls.isOpen call = false := by simp [hopen]
      rw [Ledger.settleWith_of_closed hclosed]
      simp
    | none =>
      rw [if_pos ⟨hproject, rfl⟩]
      have hisOpen : Ledger.calls.isOpen call = true := by simp [hopen]
      cases hsymbol : callSymbol store projectId call with
      | none =>
        rw [Ledger.settleWith_of_none (hfound.trans hsymbol), ← hopen]
      | some symbolId => exact Ledger.settleWith_of_some hisOpen (hfound.trans hsymbol)
  · have hnone : within .calls projectId size (callSymbol store projectId) call = none :=
      if_neg fun hwithin ↦ hproject hwithin.1
    rw [Ledger.settleWith_of_none hnone, if_neg fun hboth ↦ hproject hboth.1]

theorem linkedCalls_eq (hsize : 0 < size) : linkedCalls store projectId size =
    { store with calls := store.calls.map (resolvedPlainly store projectId) } := by
  have hcalls : store.calls.map (Ledger.calls.settleWith
      (within .calls projectId size (callSymbol store projectId))) =
        store.calls.map (resolvedPlainly store projectId) :=
    List.map_congr_left fun call _ ↦ settleWith_within hsize call
  exact congrArg (Ledger.calls.put store) hcalls

/-- Linking a project in a store without imports resolves its calls. -/
theorem linked_of_imports_eq_nil (hsize : 0 < size) (himports : store.imports = []) :
    linked store projectId size =
      { store with calls := store.calls.map (resolvedPlainly store projectId) } := by
  have hmiddle : linkedImports store projectId size = store := by
    obtain ⟨projects, symbols, imports, calls⟩ := store
    obtain rfl : imports = [] := himports
    rfl
  rw [linked, hmiddle, linkedCalls_eq hsize]

/-- As many calls are settled as were open and have a symbol afterwards. -/
theorem settledCount_eq_countP_zip (hsize : 0 < size) (rows : List Call) :
    Ledger.calls.settledCount (within .calls projectId size (callSymbol store projectId)) rows =
      (rows.zip (rows.map (resolvedPlainly store projectId))).countP fun pair ↦
        pair.1.target.isNone && pair.2.target.isSome := by
  induction rows with
  | nil => rfl
  | cons call rest ih =>
    have hfound : (Ledger.calls.isOpen call &&
        (within .calls projectId size (callSymbol store projectId) call).isSome) =
          (call.target.isNone && (resolvedPlainly store projectId call).target.isSome) := by
      rw [resolvedPlainly, within]
      cases hopen : call.target with
      | some symbolId => simp [hopen]
      | none =>
        by_cases hproject : call.projectId = projectId
        · simp [hopen, hproject, hsize]
        · simp [hopen, hproject]
    rw [Ledger.settledCount, List.countP_cons, List.map_cons, List.zip_cons_cons, List.countP_cons,
      hfound, ← ih, Ledger.settledCount]

/-- The run goes through the open calls of the project, in the order of the table, and settles
them. -/
theorem traceCalls_run (hstore : store.WellFormed) (projectId : Int) (hsize : 0 < size) :
    let settled :=
      { store with calls := store.calls.map (resolvedPlainly store projectId) }
    (traceCalls projectId size).run store =
      .ok (({ settled.callStats projectId with
            newlyResolved := (store.calls.zip settled.calls).countP fun pair ↦
              pair.1.target.isNone && pair.2.target.isSome },
          store.calls.filter (Ledger.calls.isOpenIn projectId)),
        settled) := by
  have hstored : ∀ call ∈ Ledger.calls.rows store, Ledger.calls.isOpen call = true →
      ∀ symbolId, callSymbol store projectId call = some symbolId →
        store.hasSymbol symbolId = true :=
    fun _ _ _ _ ↦ hasSymbol_of_callSymbol_eq_some hstore
  have hrun : let settled := linkedCalls store projectId size
      (traceCalls projectId size).run store =
        .ok (({ settled.callStats projectId with
              newlyResolved := Ledger.calls.settledCount
                (within .calls projectId size (callSymbol store projectId)) store.calls },
            store.calls.filter (Ledger.calls.isOpenIn projectId)),
          settled) :=
    traceAll_run (finds_cachedCallTarget store projectId) hstored
      hstore.calls.ascending hstore.calls.positive projectId hsize
      (Cache.agrees_nil store projectId)
  rw [linkedCalls_eq hsize, settledCount_eq_countP_zip hsize] at hrun
  exact hrun

/-- Nothing is found for the calls that are open after the run. -/
theorem callSymbol_eq_none_of_open (hsize : 0 < size) {call : Call}
    (hcall : call ∈ store.calls.map (resolvedPlainly store projectId))
    (hproject : call.projectId = projectId) (hopen : call.target = none) :
    callSymbol store projectId call = none := by
  have hsettled : Ledger.calls.rows (linkedCalls store projectId size) =
      store.calls.map (resolvedPlainly store projectId) :=
    congrArg Ledger.calls.rows (linkedCalls_eq hsize)
  rw [← hsettled] at hcall
  have hisOpen : Ledger.calls.isOpen call = true := by simp [hopen]
  have hnone := Ledger.eq_none_of_isOpen_settleRows hcall hisOpen
  rwa [within, if_pos ⟨hproject, hsize⟩] at hnone

end Resolution

/-- In every store that operations reach, resolving the calls of a project goes once through each of
its open calls and through no other, and leaves the store in which these calls, and nothing else,
have what they are found to reach by fresh look-ups in the store at the start. The calls that were
open and have a symbol afterwards are counted, and nothing is found for those still open. -/
theorem calls_run_storeAfter (operations : List Operation) (projectId : Int) {size : Nat}
    (hsize : 0 < size) :
    let store := storeAfter operations
    let settled :=
      { store with calls := store.calls.map (Resolution.resolvedPlainly store projectId) }
    let newlyResolved := (store.calls.zip settled.calls).countP fun pair ↦
      pair.1.target.isNone && pair.2.target.isSome
    let stats := { settled.callStats projectId with newlyResolved }
    (Resolution.calls projectId size).run store = .ok (stats, settled) ∧
      (∃ visited,
        (Resolution.traceCalls projectId size).run store = .ok ((stats, visited), settled) ∧
        visited.Nodup ∧ ∀ call, call ∈ visited ↔
          call ∈ store.calls ∧ call.projectId = projectId ∧ call.target = none) ∧
      Resolution.calls projectId size = Prod.fst <$> Resolution.traceCalls projectId size ∧
      ∀ call ∈ settled.calls, call.projectId = projectId → call.target = none →
        Resolution.callSymbol settled projectId call = none := by
  intro store settled newlyResolved stats
  have hstore : store.WellFormed := wellFormed_storeAfter operations
  have hrun := Resolution.traceCalls_run hstore projectId hsize
  refine ⟨?_, ⟨_, hrun, hstore.calls.nodup.filter _, fun call ↦ ?_⟩, Resolution.calls_eq .., ?_⟩
  · rw [Resolution.calls_eq, StateT.run_map, hrun]
    rfl
  · rw [List.mem_filter, Ledger.isOpenIn, Bool.and_eq_true]
    simp [Ledger.calls, Call.isOpen]
  · -- what a call reaches does not depend on which calls are resolved
    intro call hcall hproject hopen
    exact (Resolution.callSymbol_eq_none_of_open hsize hcall hproject hopen :
      Resolution.callSymbol store projectId call = none)

/-- Two files with a function each that calls itself; the first one also calls what is missing. -/
def twoRecursions : List Operation :=
  [.ensureProject "demo" "file:///demo",
    .writeFile ⟨1, "down.py"⟩ <|
      .symbol none ⟨0, none, .function, "down", none, ⟨1, 3, 0, 30⟩⟩ fun _ ↦
      .call 1 "missing" 2 fun _ ↦
      .call 1 "down" 3 fun _ ↦
      .finish (.ok ()),
    .writeFile ⟨1, "up.py"⟩ <|
      .symbol none ⟨0, none, .function, "up", none, ⟨1, 2, 0, 20⟩⟩ fun _ ↦
      .call 2 "up" 2 fun _ ↦
      .finish (.ok ())]

/-- One call a page, the run gets past the call that stays open and resolves the other two. -/
theorem calls_run_twoRecursions :
    (Resolution.calls 1 1).run (storeAfter twoRecursions) =
      .ok (⟨3, 2, 2⟩, { storeAfter twoRecursions with
        calls := [⟨1, 1, "down.py", 1, "missing", 2, none⟩,
          ⟨2, 1, "down.py", 1, "down", 3, some 1⟩,
          ⟨3, 1, "up.py", 2, "up", 2, some 2⟩] }) := by
  have hrun := (calls_run_storeAfter twoRecursions 1 Nat.zero_lt_one).1
  have hcalls : (storeAfter twoRecursions).calls.map
      (Resolution.resolvedPlainly (storeAfter twoRecursions) 1) =
        [⟨1, 1, "down.py", 1, "missing", 2, none⟩,
          ⟨2, 1, "down.py", 1, "down", 3, some 1⟩,
          ⟨3, 1, "up.py", 2, "up", 2, some 2⟩] := by
    decide +kernel
  simp only [hcalls] at hrun
  refine hrun.trans (congrArg (fun stats ↦ Except.ok (stats, _)) ?_)
  decide +kernel

end SymbolGraph
