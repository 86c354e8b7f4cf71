import SymbolGraph.DeadCode
import SymbolGraph.Impact.Traversal
import SymbolGraph.Proofs.Resolution.FileView
import SymbolGraph.Proofs.Store.Slice

/-!
# The rows of one project

A store of several projects is told apart into what it has of each (`Store.contents`). Look-ups by
id and the question whether a symbol is called do not ask for the project. They stay inside it where
no row leads from one project into another (`IsPartitioned`), and then every answer about a project
is the answer of its contents alone (`answersAlike_contents`).
-/

set_option autoImplicit false
set_option relaxedAutoImplicit false

namespace SymbolGraph.Store

variable {store : Store} {projectId : Int}

/-- The symbols, the imports and the calls of one project, and nothing else. -/
def contents (store : Store) (projectId : Int) : Store where
  projects := []
  symbols := store.symbols.filter fun symbol ↦ symbol.projectId == projectId
  imports := store.imports.filter fun entry ↦ entry.projectId == projectId
  calls := store.calls.filter fun call ↦ call.projectId == projectId

theorem contents_congr {other : Store}
    (hsymbols : (store.symbols.filter fun symbol ↦ symbol.projectId == projectId) =
      other.symbols.filter fun symbol ↦ symbol.projectId == projectId)
    (himports : (store.imports.filter fun entry ↦ entry.projectId == projectId) =
      other.imports.filter fun entry ↦ entry.projectId == projectId)
    (hcalls : (store.calls.filter fun call ↦ call.projectId == projectId) =
      other.calls.filter fun call ↦ call.projectId == projectId) :
    store.contents projectId = other.contents projectId := by
  unfold contents
  rw [hsymbols, himports, hcalls]

/-- The id is that of a symbol of the project. -/
def OwnsSymbol (store : Store) (projectId id : Int) : Prop :=
  ∃ symbol ∈ store.symbols, symbol.id = id ∧ symbol.projectId = projectId

/-- No row leads from one project into another. -/
structure IsPartitioned (store : Store) : Prop where
  callers : ∀ call ∈ store.calls, store.OwnsSymbol call.projectId call.callerId
  imports : ∀ entry ∈ store.imports, ∀ symbolId, entry.target = some symbolId →
    store.OwnsSymbol entry.projectId symbolId
  calls : ∀ call ∈ store.calls, ∀ symbolId, call.target = some symbolId →
    store.OwnsSymbol call.projectId symbolId

theorem OwnsSymbol.projectId_eq (hstore : store.WellFormed) {id : Int}
    (howns : store.OwnsSymbol projectId id) {symbol : Symbol} (hsymbol : symbol ∈ store.symbols)
    (hid : symbol.id = id) : symbol.projectId = projectId := by
  obtain ⟨own, hown, hownId, rfl⟩ := howns
  rw [hstore.symbols.eq_of_id_eq hsymbol hown (hid.trans hownId.symm)]

theorem OwnsSymbol.grows {before after : Store} (hgrows : before.Grows after) {id : Int}
    (howns : before.OwnsSymbol projectId id) : after.OwnsSymbol projectId id := by
  obtain ⟨symbol, hsymbol, hid, hproject⟩ := howns
  obtain ⟨kept, hkept, hpersists⟩ := hgrows.symbols.exists_mem hsymbol
  exact ⟨kept, hkept, hpersists.id.trans hid, hpersists.projectId.trans hproject⟩

/-! ### Questions that ask for the project -/

section Questions

variable (store projectId)

/-- Of the rows of a project, a further test leaves those that it leaves of all rows. -/
theorem filter_contents {α : Type} (rows : List α) (projectOf : α → Int) (test : α → Bool) :
    (rows.filter fun row ↦ projectOf row == projectId).filter
        (fun row ↦ projectOf row == projectId && test row) =
      rows.filter fun row ↦ projectOf row == projectId && test row := by
  rw [List.filter_filter]
  refine List.filter_congr fun row _ ↦ ?_
  cases projectOf row == projectId with
  | false => rfl
  | true => exact Bool.and_true _

theorem symbolsNamed_contents (name : String) :
    (store.contents projectId).symbolsNamed projectId name = store.symbolsNamed projectId name :=
  congrArg (sortBy Symbol.compareByDistance) (filter_contents projectId store.symbols _ _)

theorem findSymbols_contents (name : String) (file : Option String) :
    (store.contents projectId).findSymbols projectId name file =
      store.findSymbols projectId name file := by
  unfold findSymbols
  rw [symbolsNamed_contents]

theorem fileView_contents (filePath : String) :
    (store.contents projectId).fileView projectId filePath = store.fileView projectId filePath := by
  unfold fileView symbolsInFile importsInFile contents
  dsimp only
  rw [filter_contents projectId store.symbols, filter_contents projectId store.imports]

theorem openImports_contents (after : Int) (limit : Nat) :
    (store.contents projectId).openImports projectId after limit =
      store.openImports projectId after limit := by
  unfold openImports Ledger.openRows Ledger.isOpenIn
  simp only [Bool.and_assoc]
  exact congrArg (List.take limit) (filter_contents projectId store.imports _ _)

theorem openCalls_contents (after : Int) (limit : Nat) :
    (store.contents projectId).openCalls projectId after limit =
      store.openCalls projectId after limit := by
  unfold openCalls Ledger.openRows Ledger.isOpenIn
  simp only [Bool.and_assoc]
  exact congrArg (List.take limit) (filter_contents projectId store.calls _ _)

theorem overview_contents {project : Project} (hproject : project.id = projectId) :
    (store.contents projectId).overview project = store.overview project := by
  subst hproject
  unfold overview importStats callStats Ledger.stats Ledger.imports Ledger.calls contents
  simp only [List.filter_filter, Bool.and_self]

end Questions

/-! ### Questions that follow ids -/

/-- A symbol of the project is found in its contents. -/
theorem symbol?_contents (hstore : store.WellFormed) {id : Int}
    (howns : store.OwnsSymbol projectId id) :
    (store.contents projectId).symbol? id = store.symbol? id := by
  refine find?_filter_of_imp fun symbol hsymbol hid ↦ ?_
  exact beq_iff_eq.mpr (howns.projectId_eq hstore hsymbol (beq_iff_eq.mp hid))

theorem callerEdge?_contents (hstore : store.WellFormed) {call : Call}
    (howns : store.OwnsSymbol projectId call.callerId) :
    (store.contents projectId).callerEdge? call = store.callerEdge? call := by
  unfold callerEdge?
  rw [symbol?_contents hstore howns]

/-- The callers of symbols of a project are looked up in its contents. -/
theorem callersOf_contents (hstore : store.WellFormed) (hpartitioned : store.IsPartitioned)
    (calleeIds : List Int) : (store.contents projectId).callersOf projectId calleeIds =
      store.callersOf projectId calleeIds := by
  unfold callersOf
  refine List.flatMap_congr fun page _ ↦ ?_
  have hcalls : ((store.contents projectId).calls.filter fun call ↦
      call.projectId == projectId && page.any fun id ↦ call.target == some id) =
      store.calls.filter fun call ↦
        call.projectId == projectId && page.any fun id ↦ call.target == some id :=
    filter_contents projectId store.calls _ _
  unfold callersOfEach
  rw [hcalls]
  refine List.filterMap_congr fun call hcall ↦ callerEdge?_contents hstore ?_
  rw [mem_sortBy_iff, List.mem_filter, Bool.and_eq_true, beq_iff_eq] at hcall
  exact hcall.2.1 ▸ hpartitioned.callers call hcall.1

/-- A symbol of the project is called from the project or not at all. -/
theorem isCalled_contents (hstore : store.WellFormed) (hpartitioned : store.IsPartitioned)
    {symbol : Symbol} (hsymbol : symbol ∈ store.symbols) :
    (store.contents symbol.projectId).isCalled symbol.id = store.isCalled symbol.id := by
  refine any_filter_of_imp fun call hcall htarget ↦ ?_
  have howns := hpartitioned.calls call hcall symbol.id (beq_iff_eq.mp htarget)
  exact beq_iff_eq.mpr (howns.projectId_eq hstore hsymbol rfl).symm

theorem uncalledSymbols_contents (hstore : store.WellFormed) (hpartitioned : store.IsPartitioned)
    (kinds : List String) : (store.contents projectId).uncalledSymbols projectId kinds =
      store.uncalledSymbols projectId kinds := by
  unfold uncalledSymbols
  simp only [Bool.and_assoc]
  refine congrArg (sortBy Symbol.compareByName) ?_
  refine (filter_contents projectId store.symbols _ _).trans (List.filter_congr ?_)
  intro symbol hsymbol
  by_cases hproject : symbol.projectId = projectId
  · rw [← hproject, isCalled_contents hstore hpartitioned hsymbol]
  · rw [beq_false_of_ne hproject]
    rfl

/-! ### All questions -/

/-- The stores answer every question about the project alike. -/
structure AnswersAlike (projectId : Int) (store other : Store) : Prop where
  symbolsNamed : ∀ name, store.symbolsNamed projectId name = other.symbolsNamed projectId name
  fileView : ∀ filePath, store.fileView projectId filePath = other.fileView projectId filePath
  openImports : ∀ after limit,
    store.openImports projectId after limit = other.openImports projectId after limit
  openCalls : ∀ after limit,
    store.openCalls projectId after limit = other.openCalls projectId after limit
  callersOf : ∀ calleeIds,
    store.callersOf projectId calleeIds = other.callersOf projectId calleeIds
  overview : ∀ project : Project, project.id = projectId →
    store.overview project = other.overview project
  impact : ∀ query limits,
    Impact.analyze store projectId query limits = Impact.analyze other projectId query limits
  deadCode : ∀ options,
    DeadCode.find store projectId options = DeadCode.find other projectId options

theorem AnswersAlike.symm {other : Store} (halike : AnswersAlike projectId store other) :
    AnswersAlike projectId other store where
  symbolsNamed := fun name ↦ (halike.symbolsNamed name).symm
  fileView := fun filePath ↦ (halike.fileView filePath).symm
  openImports := fun after limit ↦ (halike.openImports after limit).symm
  openCalls := fun after limit ↦ (halike.openCalls after limit).symm
  callersOf := fun calleeIds ↦ (halike.callersOf calleeIds).symm
  overview := fun project hproject ↦ (halike.overview project hproject).symm
  impact := fun query limits ↦ (halike.impact query limits).symm
  deadCode := fun options ↦ (halike.deadCode options).symm

theorem AnswersAlike.trans {middle other : Store} (hfirst : AnswersAlike projectId store middle)
    (hsecond : AnswersAlike projectId middle other) : AnswersAlike projectId store other where
  symbolsNamed := fun name ↦ (hfirst.symbolsNamed name).trans (hsecond.symbolsNamed name)
  fileView := fun filePath ↦ (hfirst.fileView filePath).trans (hsecond.fileView filePath)
  openImports := fun after limit ↦
    (hfirst.openImports after limit).trans (hsecond.openImports after limit)
  openCalls := fun after limit ↦
    (hfirst.openCalls after limit).trans (hsecond.openCalls after limit)
  callersOf := fun calleeIds ↦ (hfirst.callersOf calleeIds).trans (hsecond.callersOf calleeIds)
  overview := fun project hproject ↦
    (hfirst.overview project hproject).trans (hsecond.overview project hproject)
  impact := fun query limits ↦ (hfirst.impact query limits).trans (hsecond.impact query limits)
  deadCode := fun options ↦ (hfirst.deadCode options).trans (hsecond.deadCode options)

/-- The contents of a project answer every question about it, when no row leads out of it. -/
theorem answersAlike_contents (hstore : store.WellFormed) (hpartitioned : store.IsPartitioned)
    (projectId : Int) : AnswersAlike projectId (store.contents projectId) store where
  symbolsNamed := symbolsNamed_contents store projectId
  fileView := fileView_contents store projectId
  openImports := openImports_contents store projectId
  openCalls := openCalls_contents store projectId
  callersOf := callersOf_contents hstore hpartitioned
  overview := fun _ hproject ↦ overview_contents store projectId hproject
  impact := by
    intro query limits
    unfold Impact.analyze Impact.analyzeBy
    rw [findSymbols_contents, funext (callersOf_contents hstore hpartitioned)]
  deadCode := by
    intro options
    unfold DeadCode.find DeadCode.select
    rw [uncalledSymbols_contents hstore hpartitioned]

/-- Stores with the same contents of a project answer alike. -/
theorem AnswersAlike.of_contents_eq {other : Store} (hstore : store.WellFormed)
    (hother : other.WellFormed) (hpartitioned : store.IsPartitioned)
    (hotherPartitioned : other.IsPartitioned)
    (hcontents : store.contents projectId = other.contents projectId) :
    AnswersAlike projectId store other :=
  (answersAlike_contents hstore hpartitioned projectId).symm.trans
    (hcontents ▸ answersAlike_contents hother hotherPartitioned projectId)

end SymbolGraph.Store
