import SymbolGraph.Impact.Traversal
import SymbolGraph.Proofs.Store.Query
import SymbolGraph.Proofs.Store.WellFormed

/-!
# Distances along calls

The resolved calls of a project lead from symbol to symbol. `Store.CallChain` says that a chain of
so many calls leads from a symbol to a target, and `Store.IsDistance` that no chain is shorter. A
symbol at a positive distance calls one that is nearer by one (`IsDistance.predecessor`), so the
distances that occur have no gaps (`IsDistance.no_gap`).
-/

set_option autoImplicit false
set_option relaxedAutoImplicit false

namespace SymbolGraph

/-- Where a call is: the symbol around it, its file and its line. -/
structure CallSite where
  callerId : Int
  filePath : String
  line : Int
  deriving DecidableEq, Repr

/-- The site of a call. -/
def Call.site (call : Call) : CallSite where
  callerId := call.callerId
  filePath := call.filePath
  line := call.line

/-- The site of an edge. -/
def CallerEdge.site (edge : CallerEdge) : CallSite where
  callerId := edge.caller.id
  filePath := edge.filePath
  line := edge.line

/-- The site of an entry. -/
def ImpactEntry.site (entry : ImpactEntry) : CallSite where
  callerId := entry.caller.id
  filePath := entry.filePath
  line := entry.line

namespace Store

/-- A resolved call of the project at the site reaches the callee. -/
def CallsAt (store : Store) (projectId : Int) (site : CallSite) (calleeId : Int) : Prop :=
  ∃ call ∈ store.calls,
    call.projectId = projectId ∧ call.site = site ∧ call.target = some calleeId

/-- A chain of resolved calls of the project, as many as the length says, leads from the symbol to
the target. -/
inductive CallChain (store : Store) (projectId targetId : Int) : (length : Nat) → Int → Prop
  | target : CallChain store projectId targetId 0 targetId
  | call {length : Nat} {site : CallSite} {calleeId : Int}
      (hcall : store.CallsAt projectId site calleeId)
      (hchain : CallChain store projectId targetId length calleeId) :
      CallChain store projectId targetId (length + 1) site.callerId

/-- The length of the shortest chain of calls from the symbol to the target. -/
structure IsDistance (store : Store) (projectId targetId : Int) (distance : Nat) (id : Int) :
    Prop where
  chain : store.CallChain projectId targetId distance id
  shortest : ∀ length, store.CallChain projectId targetId length id → distance ≤ length

variable {store : Store} {projectId targetId : Int}

theorem isDistance_target : store.IsDistance projectId targetId 0 targetId where
  chain := .target
  shortest := fun length _ ↦ Nat.zero_le length

/-- A symbol has one distance. -/
theorem IsDistance.unique {first second : Nat} {id : Int}
    (hfirst : store.IsDistance projectId targetId first id)
    (hsecond : store.IsDistance projectId targetId second id) : first = second :=
  Nat.le_antisymm (hfirst.shortest second hsecond.chain) (hsecond.shortest first hfirst.chain)

/-- Only the target is at distance zero. -/
theorem isDistance_zero_iff {id : Int} :
    store.IsDistance projectId targetId 0 id ↔ id = targetId := by
  constructor
  · rintro ⟨hchain, -⟩
    cases hchain
    rfl
  · rintro rfl
    exact isDistance_target

/-- A symbol with a chain to the target has a distance, which is not larger. -/
theorem CallChain.exists_distance {length : Nat} {id : Int}
    (hchain : store.CallChain projectId targetId length id) :
    ∃ distance ≤ length, store.IsDistance projectId targetId distance id := by
  induction length using Nat.strongRecOn with
  | ind length ih =>
    by_cases hshorter : ∃ shorter < length, store.CallChain projectId targetId shorter id
    · obtain ⟨shorter, hlt, hshort⟩ := hshorter
      obtain ⟨distance, hle, hdistance⟩ := ih shorter hlt hshort
      exact ⟨distance, Nat.le_trans hle (Nat.le_of_lt hlt), hdistance⟩
    · refine ⟨length, Nat.le_refl length, hchain, fun other hother ↦ ?_⟩
      exact Nat.le_of_not_lt fun hlt ↦ hshorter ⟨other, hlt, hother⟩

/-- Whoever calls a symbol is at most one further from the target. -/
theorem IsDistance.le_of_callsAt {distance callerDistance : Nat} {site : CallSite} {calleeId : Int}
    (hcaller : store.IsDistance projectId targetId callerDistance site.callerId)
    (hcall : store.CallsAt projectId site calleeId)
    (hcallee : store.IsDistance projectId targetId distance calleeId) :
    callerDistance ≤ distance + 1 :=
  hcaller.shortest _ (.call hcall hcallee.chain)

/-- A symbol at a positive distance calls one that is nearer by one. -/
theorem IsDistance.predecessor {distance : Nat} {id : Int}
    (hdistance : store.IsDistance projectId targetId (distance + 1) id) :
    ∃ site calleeId, site.callerId = id ∧ store.CallsAt projectId site calleeId ∧
      store.IsDistance projectId targetId distance calleeId := by
  obtain ⟨hchain, hshortest⟩ := hdistance
  cases hchain with
  | call hcall hrest =>
    refine ⟨_, _, rfl, hcall, hrest, fun length hlength ↦ ?_⟩
    exact Nat.le_of_succ_le_succ (hshortest _ (.call hcall hlength))

/-- When no symbol is at a distance, none is further away. -/
theorem IsDistance.no_gap {near far : Nat} {id : Int}
    (hfar : store.IsDistance projectId targetId far id) (hle : near ≤ far) :
    ∃ other, store.IsDistance projectId targetId near other := by
  induction far generalizing id with
  | zero =>
    obtain rfl := Nat.le_zero.mp hle
    exact ⟨id, hfar⟩
  | succ far ih =>
    rcases Nat.lt_or_eq_of_le hle with hlt | rfl
    · obtain ⟨-, calleeId, -, -, hcallee⟩ := hfar.predecessor
      exact ih hcallee (Nat.le_of_lt_succ hlt)
    · exact ⟨id, hfar⟩

/-- A symbol is one step beyond a distance when it is not the target, calls a symbol at the
distance, and calls none that is nearer. -/
theorem isDistance_succ_iff {distance : Nat} {id : Int} :
    store.IsDistance projectId targetId (distance + 1) id ↔ id ≠ targetId ∧
      (∃ site calleeId, site.callerId = id ∧ store.CallsAt projectId site calleeId ∧
        store.IsDistance projectId targetId distance calleeId) ∧
      ∀ site calleeId nearer, site.callerId = id → store.CallsAt projectId site calleeId →
        store.IsDistance projectId targetId nearer calleeId → distance ≤ nearer := by
  constructor
  · intro hid
    refine ⟨?_, hid.predecessor, ?_⟩
    · rintro rfl
      exact absurd (hid.unique isDistance_target) (Nat.succ_ne_zero distance)
    · rintro site calleeId nearer rfl hcall hcallee
      exact Nat.le_of_succ_le_succ (hid.le_of_callsAt hcall hcallee)
  · rintro ⟨hne, ⟨site, calleeId, rfl, hcall, hcallee⟩, hnearest⟩
    refine ⟨.call hcall hcallee.chain, fun length hlength ↦ ?_⟩
    generalize hid : site.callerId = id at hlength hne
    cases hlength with
    | target => exact absurd rfl hne
    | call hother hrest =>
      obtain ⟨nearer, hle, hnearer⟩ := hrest.exists_distance
      exact Nat.succ_le_succ (Nat.le_trans (hnearest _ _ _ hid.symm hother hnearer) hle)

/-! ### Callers -/

/-- An edge has the site of its call. -/
theorem site_of_callerEdge?_eq_some {call : Call} {edge : CallerEdge}
    (hedge : store.callerEdge? call = some edge) : edge.site = call.site := by
  obtain ⟨-, caller, hcaller, hsummary, hfile, hline⟩ := callerEdge?_eq_some_iff.mp hedge
  have hcallerId : edge.caller.id = call.callerId := by
    rw [hsummary]
    exact (mem_of_symbol?_eq_some hcaller).2
  rw [Call.site, CallerEdge.site, hcallerId, hfile, hline]

/-- In a well-formed store every call has a caller, so that the callers of some symbols are the
sites of the project's calls to them. -/
theorem WellFormed.exists_callersOf_iff (hstore : store.WellFormed) {calleeIds : List Int}
    {site : CallSite} {calleeId : Int} :
    (∃ edge ∈ store.callersOf projectId calleeIds,
        edge.site = site ∧ edge.calleeId = calleeId) ↔
      calleeId ∈ calleeIds ∧ store.CallsAt projectId site calleeId := by
  constructor
  · rintro ⟨edge, hedge, rfl, rfl⟩
    obtain ⟨hid, call, hcall, hproject, hjoined⟩ := mem_callersOf_iff.mp hedge
    exact ⟨hid, call, hcall, hproject, (site_of_callerEdge?_eq_some hjoined).symm,
      (callerEdge?_eq_some_iff.mp hjoined).1⟩
  · rintro ⟨hid, call, hcall, hproject, rfl, htarget⟩
    obtain ⟨caller, hcaller⟩ := exists_symbol?_of_hasSymbol (hstore.anchoredCalls call hcall).2.1
    have hjoined : store.callerEdge? call =
        some ⟨calleeId, caller.summary, call.filePath, call.line⟩ :=
      callerEdge?_eq_some_iff.mpr ⟨htarget, caller, hcaller, rfl, rfl, rfl⟩
    exact ⟨_, mem_callersOf_iff.mpr ⟨hid, call, hcall, hproject, hjoined⟩,
      site_of_callerEdge?_eq_some hjoined, rfl⟩

/-- The caller of an edge is shown as it is stored. -/
theorem exists_symbol?_of_mem_callersOf {calleeIds : List Int} {edge : CallerEdge}
    (hedge : edge ∈ store.callersOf projectId calleeIds) :
    ∃ caller, store.symbol? edge.caller.id = some caller ∧ edge.caller = caller.summary := by
  obtain ⟨-, call, -, -, hjoined⟩ := mem_callersOf_iff.mp hedge
  obtain ⟨-, caller, hcaller, hsummary, -, -⟩ := callerEdge?_eq_some_iff.mp hjoined
  have hcallerId : edge.caller.id = call.callerId :=
    congrArg CallSite.callerId (site_of_callerEdge?_eq_some hjoined)
  exact ⟨caller, hcallerId ▸ hcaller, hsummary⟩

end Store

end SymbolGraph
