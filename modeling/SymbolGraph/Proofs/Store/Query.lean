import SymbolGraph.Proofs.Order
import SymbolGraph.Store.Query

/-!
# What questions to the store answer

Sorted answers have the rows that pass their tests, no others, and none more often than the table
(`mem_symbolsNamed_iff`, `mem_symbolsInFile_iff`, `mem_importsInFile_iff`). The callers of some
callees are looked up page by page, and the answer has the edges of all resolved calls that reach
one of them (`mem_callersOf_iff`).
-/

set_option autoImplicit false
set_option relaxedAutoImplicit false

namespace SymbolGraph

/-! ### Orders -/

instance : Std.TransCmp Symbol.compareByDistance :=
  inferInstanceAs <| Std.TransCmp <|
    compareLex (compareOn fun symbol : Symbol ↦ symbol.filePath.length) <|
    compareLex (compareOn fun symbol : Symbol ↦ symbol.filePath) <|
    compareLex (compareOn fun symbol : Symbol ↦ symbol.span.startLine) <|
    compareOn fun symbol : Symbol ↦ symbol.id

instance : Std.TransCmp Symbol.compareByLine :=
  inferInstanceAs <| Std.TransCmp <|
    compareLex (compareOn fun symbol : Symbol ↦ symbol.span.startLine) <|
    compareOn fun symbol : Symbol ↦ symbol.id

instance : Std.TransCmp Import.compareByLine :=
  inferInstanceAs <| Std.TransCmp <|
    compareLex (compareOn fun entry : Import ↦ entry.line) <|
    compareOn fun entry : Import ↦ entry.id

namespace Store

variable {store : Store} {projectId : Int}

/-! ### Look-ups -/

theorem mem_symbolsNamed_iff {name : String} {symbol : Symbol} :
    symbol ∈ store.symbolsNamed projectId name ↔
      symbol ∈ store.symbols ∧ symbol.projectId = projectId ∧ symbol.name = name := by
  simp [symbolsNamed]

/-- Symbols of a name that are stored in the order of the answer are the answer. -/
theorem symbolsNamed_of_pairwise {name : String}
    (hsorted : (store.symbols.filter fun symbol ↦
      symbol.projectId == projectId && symbol.name == name).Pairwise fun left right ↦
        (left.compareByDistance right).isLE = true) :
    store.symbolsNamed projectId name = store.symbols.filter fun symbol ↦
      symbol.projectId == projectId && symbol.name == name :=
  List.mergeSort_of_pairwise hsorted

/-- The symbols that a name and a file narrow down to are among those of the name. -/
theorem mem_symbolsNamed_of_mem_findSymbols {name : String} {file : Option String}
    {symbol : Symbol} (hfound : symbol ∈ store.findSymbols projectId name file) :
    symbol ∈ store.symbolsNamed projectId name := by
  unfold findSymbols at hfound
  split at hfound
  · exact hfound
  · exact (List.mem_filter.mp hfound).1

theorem mem_symbolsInFile_iff {filePath : String} {symbol : Symbol} :
    symbol ∈ store.symbolsInFile projectId filePath ↔
      symbol ∈ store.symbols ∧ symbol.projectId = projectId ∧ symbol.filePath = filePath := by
  simp [symbolsInFile]

theorem mem_importsInFile_iff {filePath : String} {entry : Import} :
    entry ∈ store.importsInFile projectId filePath ↔
      entry ∈ store.imports ∧ entry.projectId = projectId ∧ entry.filePath = filePath := by
  simp [importsInFile]

/-- A symbol that is found by its id is stored and has the id. -/
theorem mem_of_symbol?_eq_some {id : Int} {symbol : Symbol}
    (hfound : store.symbol? id = some symbol) : symbol ∈ store.symbols ∧ symbol.id = id := by
  have hid := List.find?_some hfound
  exact ⟨List.mem_of_find?_eq_some hfound, by simpa using hid⟩

/-- A symbol is found by its id when it exists. -/
theorem exists_symbol?_of_hasSymbol {id : Int} (hstored : store.hasSymbol id = true) :
    ∃ symbol, store.symbol? id = some symbol := by
  obtain ⟨symbol, hsymbol, hid⟩ := List.any_eq_true.mp hstored
  exact Option.isSome_iff_exists.mp (List.find?_isSome.mpr ⟨symbol, hsymbol, hid⟩)

/-! ### Callers -/

/-- The edge of a resolved call names what is called and where, and the symbol around the call. -/
theorem callerEdge?_eq_some_iff {call : Call} {edge : CallerEdge} :
    store.callerEdge? call = some edge ↔ call.target = some edge.calleeId ∧
      ∃ caller, store.symbol? call.callerId = some caller ∧ edge.caller = caller.summary ∧
        edge.filePath = call.filePath ∧ edge.line = call.line := by
  obtain ⟨calleeId, summary, filePath, line⟩ := edge
  cases htarget : call.target with
  | none => simp [callerEdge?, htarget]
  | some targetId =>
    cases hcaller : store.symbol? call.callerId with
    | none => simp [callerEdge?, hcaller]
    | some caller =>
      simp only [callerEdge?, htarget, hcaller, Option.some.injEq, CallerEdge.mk.injEq]
      constructor
      · rintro ⟨rfl, rfl, rfl, rfl⟩
        exact ⟨rfl, caller, rfl, rfl, rfl, rfl⟩
      · rintro ⟨rfl, other, rfl, rfl, rfl, rfl⟩
        exact ⟨rfl, rfl, rfl, rfl⟩

theorem flatten_pagesOf {α : Type} (size : Nat) (elements : List α) :
    (pagesOf size elements).flatten = elements := by
  induction elements using pagesOf.induct size with
  | case1 => simp [pagesOf]
  | case2 first rest ih => rw [pagesOf, List.flatten_cons, ih, List.cons_append,
      List.take_append_drop]

theorem mem_callersOfEach_iff {calleeIds : List Int} {edge : CallerEdge} :
    edge ∈ store.callersOfEach projectId calleeIds ↔ edge.calleeId ∈ calleeIds ∧
      ∃ call ∈ store.calls, call.projectId = projectId ∧ store.callerEdge? call = some edge := by
  rw [callersOfEach, List.mem_filterMap]
  constructor
  · rintro ⟨call, hcall, hedge⟩
    rw [mem_sortBy_iff, List.mem_filter, Bool.and_eq_true, beq_iff_eq, List.any_eq_true] at hcall
    obtain ⟨hmem, hproject, id, hid, htarget⟩ := hcall
    have hcallee := (callerEdge?_eq_some_iff.mp hedge).1
    rw [eq_of_beq htarget, Option.some_inj] at hcallee
    exact ⟨hcallee ▸ hid, call, hmem, hproject, hedge⟩
  · rintro ⟨hid, call, hmem, hproject, hedge⟩
    have hcallee := (callerEdge?_eq_some_iff.mp hedge).1
    refine ⟨call, ?_, hedge⟩
    rw [mem_sortBy_iff, List.mem_filter, Bool.and_eq_true, beq_iff_eq, List.any_eq_true]
    exact ⟨hmem, hproject, edge.calleeId, hid, beq_iff_eq.mpr hcallee⟩

/-- The callers of some callees are the edges of the project's calls that reach one of them,
whichever page it is on. -/
theorem mem_callersOf_iff {calleeIds : List Int} {edge : CallerEdge} :
    edge ∈ store.callersOf projectId calleeIds ↔ edge.calleeId ∈ calleeIds ∧
      ∃ call ∈ store.calls, call.projectId = projectId ∧ store.callerEdge? call = some edge := by
  rw [callersOf, List.mem_flatMap]
  constructor
  · rintro ⟨page, hpage, hedge⟩
    obtain ⟨hid, hcall⟩ := mem_callersOfEach_iff.mp hedge
    refine ⟨?_, hcall⟩
    rw [← flatten_pagesOf (calleePage - 1) calleeIds]
    exact List.mem_flatten_of_mem hpage hid
  · rintro ⟨hid, hcall⟩
    rw [← flatten_pagesOf (calleePage - 1) calleeIds] at hid
    obtain ⟨page, hpage, hmem⟩ := List.mem_flatten.mp hid
    exact ⟨page, hpage, mem_callersOfEach_iff.mpr ⟨hmem, hcall⟩⟩

end Store

end SymbolGraph
