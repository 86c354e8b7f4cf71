import SymbolGraph.Proofs.Ingest.Scope

/-!
# Which imports and calls a file adds

Storing the imports of a file gives the rows of its mentions the binding and the line of the last
mention, and adds a row for each name that is not stored (`imports_run_eq`). Storing its calls adds
a row for each call site that is not stored and has a stored symbol around it (`calls_run_eq`).
Names and sites that occur more often are stored once (`newKeys`), and nothing else of the store
changes.
-/

set_option autoImplicit false
set_option relaxedAutoImplicit false

namespace SymbolGraph

/-- The source and the name of an import, by which a file mentions it. -/
def ImportMention.place (mention : ImportMention) : String × String :=
  (mention.source, mention.name)

/-- The source and the name of a stored import. -/
def Import.place (entry : Import) : String × String :=
  (entry.source, entry.name)

/-- The caller, the callee and the line of a stored call. -/
def Call.place (call : Call) : Int × String × Int :=
  (call.callerId, call.callee, call.line)

/-- The caller, the callee and the line of a call, when the symbol around it has an id. -/
def CallMention.place? (idOf : Nat → Option Int) (mention : CallMention) :
    Option (Int × String × Int) :=
  (idOf mention.caller).map fun callerId ↦ (callerId, mention.callee, mention.line)

namespace Ingest

/-! ### New keys -/

section Keys

variable {κ : Type} [DecidableEq κ] {stored : κ → Bool} {key : κ}

/-- The keys that are not stored, each of them once. -/
def newKeys (stored : κ → Bool) (keys : List κ) : List κ :=
  (keys.filter fun key ↦ !stored key).eraseDups

theorem mem_newKeys_iff {keys : List κ} :
    key ∈ newKeys stored keys ↔ key ∈ keys ∧ stored key = false := by
  rw [newKeys, List.mem_eraseDups, List.mem_filter, Bool.not_eq_true']

theorem mem_of_mem_newKeys {keys : List κ} (hkey : key ∈ newKeys stored keys) : key ∈ keys :=
  (mem_newKeys_iff.mp hkey).1

theorem newKeys_cons_of_stored (hstored : stored key = true) (rest : List κ) :
    newKeys stored (key :: rest) = newKeys stored rest := by
  rw [newKeys, List.filter_cons_of_neg (by simp [hstored]), newKeys]

/-- A key that is new is stored for those that follow. -/
theorem newKeys_cons_of_new (hnew : stored key = false) (rest : List κ) :
    newKeys stored (key :: rest) =
      key :: newKeys (fun other ↦ stored other || decide (other = key)) rest := by
  rw [newKeys, List.filter_cons_of_pos (by simp [hnew]), List.eraseDups_cons, List.filter_filter,
    newKeys]
  refine congrArg (fun keys ↦ key :: List.eraseDups keys) (List.filter_congr fun other _ ↦ ?_)
  rw [Bool.not_or, Bool.and_comm]
  rfl

end Keys

/-! ### Imports -/

section Imports

variable {file : Store.FileScope} {store : Store}

/-- The last mention whose place the row holds. -/
def lastMention (file : Store.FileScope) (mentions : List ImportMention) (entry : Import) :
    Option ImportMention :=
  (mentions.filter fun mention ↦ file.holdsImport mention.source mention.name entry).getLast?

/-- The row with the binding and the line of its last mention, if there is one. -/
def refreshed (file : Store.FileScope) (mentions : List ImportMention) (entry : Import) : Import :=
  match lastMention file mentions entry with
  | some mention => { entry with binding := mention.binding, line := mention.line }
  | none => entry

theorem lastMention_cons_of_holds {mention : ImportMention} {entry : Import}
    (hholds : file.holdsImport mention.source mention.name entry = true)
    (rest : List ImportMention) :
    lastMention file (mention :: rest) entry =
      some ((lastMention file rest entry).getD mention) := by
  rw [lastMention, List.filter_cons, if_pos hholds, List.getLast?_cons, lastMention]

theorem lastMention_cons_of_not_holds {mention : ImportMention} {entry : Import}
    (hholds : file.holdsImport mention.source mention.name entry = false)
    (rest : List ImportMention) :
    lastMention file (mention :: rest) entry = lastMention file rest entry := by
  rw [lastMention, List.filter_cons, if_neg (Bool.eq_false_iff.mp hholds), lastMention]

/-- Taking over the first mention changes nothing for the later ones. -/
theorem refreshed_cons (mention : ImportMention) (rest : List ImportMention) (entry : Import) :
    refreshed file (mention :: rest) entry = refreshed file rest
      (if file.holdsImport mention.source mention.name entry then entry.takeOver mention
        else entry) := by
  cases hholds : file.holdsImport mention.source mention.name entry with
  | false =>
    rw [refreshed, lastMention_cons_of_not_holds hholds]
    rfl
  | true =>
    have hlast : lastMention file rest (entry.takeOver mention) = lastMention file rest entry := rfl
    rw [if_pos rfl, refreshed, lastMention_cons_of_holds hholds, refreshed, hlast]
    cases lastMention file rest entry with
    | none => rfl
    | some last => rfl

theorem refreshed_nil (entry : Import) : refreshed file [] entry = entry :=
  rfl

/-- Taking over mentions leaves all other columns as they are. -/
theorem refreshed_eq (mentions : List ImportMention) (entry : Import) :
    ∃ binding line, refreshed file mentions entry = { entry with binding, line } := by
  unfold refreshed
  cases lastMention file mentions entry with
  | none => exact ⟨entry.binding, entry.line, rfl⟩
  | some mention => exact ⟨mention.binding, mention.line, rfl⟩

/-- The place of an import of the file is stored. -/
def hasImport (file : Store.FileScope) (store : Store) (place : String × String) : Bool :=
  store.imports.any (file.holdsImport place.1 place.2)

theorem hasImport_amendImport (mention : ImportMention) (place : String × String) :
    hasImport file (store.amendImport file mention) place = hasImport file store place := by
  unfold hasImport Store.amendImport Store.amendWhere
  rw [List.any_map]
  refine congrArg (store.imports.any ·) (funext fun entry ↦ ?_)
  rw [Function.comp_apply]
  split
  · rfl
  · rfl

theorem hasImport_addImport (mention : ImportMention) (place : String × String) :
    hasImport file (store.addImport file mention) place =
      (hasImport file store place || decide (place = mention.place)) := by
  obtain ⟨source, name⟩ := place
  unfold hasImport Store.addImport
  rw [List.any_append, List.any_cons, List.any_nil, Bool.or_false]
  refine congrArg (_ || ·) (Bool.eq_iff_iff.mpr ?_)
  rw [Store.FileScope.holdsImport_eq_true_iff, decide_eq_true_iff]
  simp [Import.key, Store.FileScope.newImport, ImportMention.place, eq_comm]

/-- What is true of an import that a file adds: it belongs to the file, it is open, and it has the
binding and the line of its last mention. -/
structure IsNewImport (file : Store.FileScope) (mentions : List ImportMention) (entry : Import) :
    Prop where
  isOfFile : entry.file = file
  target : entry.target = none
  isResolved : entry.isResolved = false
  details : ∃ mention, lastMention file mentions entry = some mention ∧
    entry.binding = mention.binding ∧ entry.line = mention.line

/-- Earlier mentions do not matter. -/
theorem IsNewImport.cons {mentions : List ImportMention} {entry : Import}
    (hnew : IsNewImport file mentions entry) (mention : ImportMention) :
    IsNewImport file (mention :: mentions) entry where
  isOfFile := hnew.isOfFile
  target := hnew.target
  isResolved := hnew.isResolved
  details := by
    obtain ⟨last, hlast, hdetails⟩ := hnew.details
    refine ⟨last, ?_, hdetails⟩
    cases hholds : file.holdsImport mention.source mention.name entry with
    | false => rw [lastMention_cons_of_not_holds hholds, hlast]
    | true => rw [lastMention_cons_of_holds hholds, hlast, Option.getD_some]

/-- A row that is added for a mention takes over the later ones. -/
theorem isNewImport_refreshed (id : Int) (mention : ImportMention) (rest : List ImportMention) :
    IsNewImport file (mention :: rest) (refreshed file rest (file.newImport id mention)) := by
  have hholds : file.holdsImport mention.source mention.name (file.newImport id mention) = true :=
    Store.FileScope.holdsImport_eq_true_iff.mpr rfl
  have hlast := lastMention_cons_of_holds hholds rest
  unfold refreshed
  cases hrest : lastMention file rest (file.newImport id mention) with
  | none =>
    rw [hrest] at hlast
    exact ⟨rfl, rfl, rfl, mention, hlast, rfl, rfl⟩
  | some last =>
    rw [hrest] at hlast
    exact ⟨rfl, rfl, rfl, last, hlast, rfl, rfl⟩

/-- Storing the imports of a file adds those that are new, and refreshes the others. -/
theorem imports_run_eq (hproject : store.hasProject file.projectId = true)
    (mentions : List ImportMention) : ∃ added,
      (imports file mentions).run store =
        .ok ((), { store with imports := store.imports.map (refreshed file mentions) ++ added }) ∧
      added.map Import.place = newKeys (hasImport file store) (mentions.map (·.place)) ∧
      ∀ entry ∈ added, IsNewImport file mentions entry := by
  induction mentions generalizing store with
  | nil =>
    refine ⟨[], ?_, rfl, fun entry hentry ↦ nomatch hentry⟩
    rw [List.map_congr_left fun entry _ ↦ refreshed_nil entry, List.map_id', List.append_nil]
    rfl
  | cons mention rest ih =>
    have hwrite : (Store.upsertImport file mention).run store =
        if hasImport file store mention.place then .ok ((), store.amendImport file mention)
        else if store.hasProject file.projectId then .ok ((), store.addImport file mention)
        else .error .brokenReference :=
      Store.upsertImport_run file mention store
    rw [List.map_cons]
    cases hstored : hasImport file store mention.place with
    | true =>
      rw [if_pos hstored] at hwrite
      have hknown : (store.amendImport file mention).hasProject file.projectId = true := hproject
      obtain ⟨added, hrest, hplaces, hnew⟩ := ih hknown
      rw [funext (hasImport_amendImport mention)] at hplaces
      refine ⟨added, Store.run_bind_eq_ok_iff.mpr ⟨_, _, hwrite, hrest.trans ?_⟩, ?_, ?_⟩
      · have hrefresh : (store.amendImport file mention).imports.map (refreshed file rest) =
            store.imports.map (refreshed file (mention :: rest)) := by
          rw [Store.amendImport, Store.amendWhere, List.map_map]
          exact List.map_congr_left fun entry _ ↦ (refreshed_cons mention rest entry).symm
        rw [hrefresh]
        rfl
      · rw [hplaces, newKeys_cons_of_stored hstored]
      · exact fun entry hentry ↦ (hnew entry hentry).cons mention
    | false =>
      rw [if_neg (Bool.eq_false_iff.mp hstored), if_pos hproject] at hwrite
      have hknown : (store.addImport file mention).hasProject file.projectId = true := hproject
      obtain ⟨added, hrest, hplaces, hnew⟩ := ih hknown
      rw [funext (hasImport_addImport mention)] at hplaces
      let id := Store.nextId (store.imports.map (·.id))
      refine ⟨refreshed file rest (file.newImport id mention) :: added,
        Store.run_bind_eq_ok_iff.mpr ⟨_, _, hwrite, hrest.trans ?_⟩, ?_, ?_⟩
      · have hothers : store.imports.map (refreshed file (mention :: rest)) =
            store.imports.map (refreshed file rest) := by
          refine List.map_congr_left fun entry hentry ↦ ?_
          rw [refreshed_cons, if_neg]
          exact fun hholds ↦ Bool.eq_false_iff.mp hstored
            (List.any_eq_true.mpr ⟨entry, hentry, hholds⟩)
        rw [hothers, Store.addImport, List.map_append, List.map_singleton, List.append_assoc]
        rfl
      · obtain ⟨binding, line, hrow⟩ := refreshed_eq rest (file.newImport id mention)
        rw [newKeys_cons_of_new hstored, List.map_cons, hplaces, hrow]
        rfl
      · rintro entry (_ | ⟨_, hentry⟩)
        · exact isNewImport_refreshed _ mention rest
        · exact (hnew entry hentry).cons mention

end Imports

/-! ### Calls -/

section Calls

variable {file : Store.FileScope} {store : Store} {scope : IdentityScope}

/-- The place of a call in the project of the file is stored. -/
def hasCall (file : Store.FileScope) (store : Store) (place : Int × String × Int) : Bool :=
  store.calls.any (file.holdsCall place.1 place.2.1 place.2.2)

theorem hasCall_addCall (callerId : Int) (callee : String) (line : Int)
    (place : Int × String × Int) :
    hasCall file (store.addCall file callerId callee line) place =
      (hasCall file store place || decide (place = (callerId, callee, line))) := by
  obtain ⟨otherCaller, otherCallee, otherLine⟩ := place
  unfold hasCall Store.addCall
  rw [List.any_append, List.any_cons, List.any_nil, Bool.or_false]
  refine congrArg (_ || ·) (Bool.eq_iff_iff.mpr ?_)
  rw [Store.FileScope.holdsCall_eq_true_iff, decide_eq_true_iff]
  simp [Call.key, Store.FileScope.newCall, eq_comm]

/-- What is true of a call that a file adds: it is written for the file, and it is open. -/
structure IsNewCall (file : Store.FileScope) (call : Call) : Prop where
  projectId : call.projectId = file.projectId
  filePath : call.filePath = file.filePath
  target : call.target = none

/-- Storing the calls of a file adds those that are new and whose callers have ids. It counts the
ones it adds, and the ones without a caller. -/
theorem calls_run_eq (hproject : store.hasProject file.projectId = true)
    (hcallers : ∀ tag callerId, scope.resolve? tag = some callerId →
      store.hasSymbol callerId = true)
    (mentions : List CallMention) : ∃ added,
      (calls file scope mentions).run store =
        .ok (⟨added.length, mentions.countP fun mention ↦ (scope.resolve? mention.caller).isNone⟩,
          { store with calls := store.calls ++ added }) ∧
      added.map Call.place =
        newKeys (hasCall file store) (mentions.filterMap (·.place? scope.resolve?)) ∧
      ∀ call ∈ added, IsNewCall file call := by
  induction mentions generalizing store with
  | nil =>
    refine ⟨[], ?_, rfl, fun call hcall ↦ nomatch hcall⟩
    rw [List.append_nil]
    rfl
  | cons mention rest ih =>
    unfold calls
    cases hcaller : scope.resolve? mention.caller with
    | none =>
      obtain ⟨added, hrest, hplaces, hnew⟩ := ih hproject hcallers
      have hplace : mention.place? scope.resolve? = none := by rw [CallMention.place?, hcaller]; rfl
      refine ⟨added, Store.run_bind_eq_ok_iff.mpr ⟨_, _, hrest, ?_⟩, ?_, hnew⟩
      · rw [List.countP_cons_of_pos (by simp [hcaller])]
        rfl
      · rw [List.filterMap_cons_none hplace, hplaces]
    | some callerId =>
      have hplace : mention.place? scope.resolve? =
          some (callerId, mention.callee, mention.line) := by rw [CallMention.place?, hcaller]; rfl
      have hwrite : (Store.insertCall file callerId mention.callee mention.line).run store =
          if hasCall file store (callerId, mention.callee, mention.line) then .ok (false, store)
          else if store.hasProject file.projectId then
            .ok (true, store.addCall file callerId mention.callee mention.line)
          else .error .brokenReference :=
        Store.insertCall_run (hcallers mention.caller callerId hcaller) mention.callee mention.line
      rw [List.countP_cons_of_neg (by simp [hcaller]), List.filterMap_cons_some hplace]
      cases hstored : hasCall file store (callerId, mention.callee, mention.line) with
      | true =>
        rw [if_pos hstored] at hwrite
        obtain ⟨added, hrest, hplaces, hnew⟩ := ih hproject hcallers
        refine ⟨added, Store.run_bind_eq_ok_iff.mpr ⟨_, _, hwrite,
          Store.run_bind_eq_ok_iff.mpr ⟨_, _, hrest, rfl⟩⟩, ?_, hnew⟩
        rw [newKeys_cons_of_stored hstored, hplaces]
      | false =>
        rw [if_neg (Bool.eq_false_iff.mp hstored), if_pos hproject] at hwrite
        have hknown : (store.addCall file callerId mention.callee mention.line).hasProject
            file.projectId = true := hproject
        obtain ⟨added, hrest, hplaces, hnew⟩ := ih hknown hcallers
        rw [funext (hasCall_addCall callerId mention.callee mention.line)] at hplaces
        let id := Store.nextId (store.calls.map (·.id))
        refine ⟨file.newCall id callerId mention.callee mention.line :: added,
          Store.run_bind_eq_ok_iff.mpr ⟨_, _, hwrite,
            Store.run_bind_eq_ok_iff.mpr ⟨_, _, hrest, ?_⟩⟩, ?_, ?_⟩
        · rw [Store.addCall, List.append_assoc]
          rfl
        · rw [newKeys_cons_of_new hstored, List.map_cons, hplaces]
          rfl
        · rintro call (_ | ⟨_, hcall⟩)
          · exact ⟨rfl, rfl, rfl⟩
          · exact hnew call hcall

end Calls

end Ingest

end SymbolGraph
