import SymbolGraph.Proofs.Store.Answer

/-!
# The rows of one file

A store is the rows of its files: the symbols and the imports of each file (`symbolsOf`,
`importsOf`), and the calls from each symbol (`callsOf`). Writing to one file leaves the rows of all
other files alone, and the calls from their symbols (`ChangesOnly`). The ids that are stored in a
table, or refer to it, are below the one that its next row gets (`Store.next`).
-/

set_option autoImplicit false
set_option relaxedAutoImplicit false

namespace SymbolGraph

/-- The file of a symbol. -/
def Symbol.file (symbol : Symbol) : Store.FileScope :=
  ⟨symbol.projectId, symbol.filePath⟩

/-- The importing file. -/
def Import.file (entry : Import) : Store.FileScope :=
  ⟨entry.projectId, entry.filePath⟩

/-- The calling file. -/
def Call.file (call : Call) : Store.FileScope :=
  ⟨call.projectId, call.filePath⟩

namespace Store

/-! ### Parts of tables -/

section Parts

variable {α : Type} {test part : α → Bool} {amend : α → α}

/-- When amending a row does not move it to another part, the rows of a part are amended. -/
theorem filter_amendWhere (hpart : ∀ row, part (amend row) = part row) (rows : List α) :
    (amendWhere test amend rows).filter part = amendWhere test amend (rows.filter part) := by
  rw [amendWhere, List.filter_map, amendWhere]
  refine congrArg (List.map _) (List.filter_congr fun row _ ↦ ?_)
  rw [Function.comp_apply]
  split
  · exact hpart row
  · rfl

/-- A part in which no row passes the test stays as it is. -/
theorem filter_amendWhere_of_disjoint (hpart : ∀ row, part (amend row) = part row)
    (hdisjoint : ∀ row, test row = true → part row = false) (rows : List α) :
    (amendWhere test amend rows).filter part = rows.filter part := by
  rw [filter_amendWhere hpart]
  refine amendWhere_of_forall_not fun row hrow ↦ Bool.eq_false_iff.mpr fun htest ↦ ?_
  have hmem := (List.mem_filter.mp hrow).2
  rw [hdisjoint row htest] at hmem
  cases hmem

theorem filter_concat_of_mem {row : α} (hrow : part row = true) (rows : List α) :
    (rows ++ [row]).filter part = rows.filter part ++ [row] := by
  rw [List.filter_append, List.filter_singleton, hrow]
  rfl

theorem filter_concat_of_not_mem {row : α} (hrow : part row = false) (rows : List α) :
    (rows ++ [row]).filter part = rows.filter part := by
  rw [List.filter_append, List.filter_singleton, hrow]
  exact List.append_nil _

/-- What passes the test is found in its part. -/
theorem find?_filter_of_imp {rows : List α}
    (himp : ∀ row ∈ rows, test row = true → part row = true) :
    (rows.filter part).find? test = rows.find? test := by
  induction rows with
  | nil => rfl
  | cons row rest ih =>
    have hrest := ih fun other hother ↦ himp other (List.mem_cons_of_mem row hother)
    cases hrow : test row with
    | true =>
      rw [List.filter_cons_of_pos (himp row List.mem_cons_self hrow),
        List.find?_cons_of_pos hrow, List.find?_cons_of_pos hrow]
    | false =>
      rw [List.find?_cons_of_neg (by simp [hrow]), ← hrest, List.filter_cons]
      split
      · exact List.find?_cons_of_neg (by simp [hrow])
      · rfl

theorem any_filter_of_imp {rows : List α}
    (himp : ∀ row ∈ rows, test row = true → part row = true) :
    (rows.filter part).any test = rows.any test := by
  rw [Bool.eq_iff_iff, List.any_eq_true, List.any_eq_true, ← List.find?_isSome,
    ← List.find?_isSome, find?_filter_of_imp himp]

/-- What is found among changed rows is the changed row, when the test does not see the change. -/
theorem find?_map_of_forall {change : α → α} {test' : α → Bool}
    (htest : ∀ row, test' (change row) = test row) (rows : List α) :
    (rows.map change).find? test' = (rows.find? test).map change := by
  rw [List.find?_map]
  exact congrArg (fun test ↦ (rows.find? test).map change) (funext htest)

/-- A part of changed and reordered rows is that part changed and reordered, when the change does
not move rows to another part. -/
theorem perm_filter_map {change : α → α} {others rows : List α}
    (hpart : ∀ row, part (change row) = part row) (hperm : others.Perm (rows.map change)) :
    (others.filter part).Perm ((rows.filter part).map change) := by
  have hfilter := hperm.filter part
  rw [List.filter_map] at hfilter
  rwa [show part ∘ change = part from funext hpart] at hfilter

/-- Amending rows goes together with any change that neither the test nor the amendment sees. -/
theorem amendWhere_map {change : α → α} {test' : α → Bool}
    (htest : ∀ row, test' (change row) = test row)
    (hamend : ∀ row, amend (change row) = change (amend row)) (rows : List α) :
    amendWhere test' amend (rows.map change) = (amendWhere test amend rows).map change := by
  rw [amendWhere, amendWhere, List.map_map, List.map_map]
  refine List.map_congr_left fun row _ ↦ ?_
  dsimp only [Function.comp_apply]
  rw [htest]
  split
  · exact hamend row
  · rfl

end Parts

/-- The symbols of a file. -/
def symbolsOf (store : Store) (file : FileScope) : List Symbol :=
  store.symbols.filter fun symbol ↦ symbol.file = file

/-- The imports of a file. -/
def importsOf (store : Store) (file : FileScope) : List Import :=
  store.imports.filter fun entry ↦ entry.file = file

/-- The calls from a symbol, whatever file they are in. -/
def callsOf (store : Store) (callerId : Int) : List Call :=
  store.calls.filter fun call ↦ call.callerId = callerId

variable {store before after : Store} {file : FileScope}

theorem mem_symbolsOf_iff {symbol : Symbol} :
    symbol ∈ store.symbolsOf file ↔ symbol ∈ store.symbols ∧ symbol.file = file := by
  simp [symbolsOf]

theorem mem_importsOf_iff {entry : Import} :
    entry ∈ store.importsOf file ↔ entry ∈ store.imports ∧ entry.file = file := by
  simp [importsOf]

theorem mem_callsOf_iff {callerId : Int} {call : Call} :
    call ∈ store.callsOf callerId ↔ call ∈ store.calls ∧ call.callerId = callerId := by
  simp [callsOf]

theorem Grows.exists_mem_symbolsOf (hgrows : before.Grows after) {symbol : Symbol}
    (hsymbol : symbol ∈ before.symbolsOf file) :
    ∃ kept ∈ after.symbolsOf file, kept.id = symbol.id := by
  obtain ⟨hmem, hfile⟩ := mem_symbolsOf_iff.mp hsymbol
  obtain ⟨kept, hkept, hpersists⟩ := hgrows.symbols.exists_mem hmem
  refine ⟨kept, mem_symbolsOf_iff.mpr ⟨hkept, ?_⟩, hpersists.id⟩
  rw [← hfile, Symbol.file, Symbol.file, hpersists.projectId, hpersists.filePath]

/-- A symbol holds a place in its own file alone. -/
theorem FileScope.file_eq_of_holdsSymbol {parentKey : Int} {name : String} {symbol : Symbol}
    (hholds : file.holdsSymbol parentKey name symbol = true) : symbol.file = file := by
  have hkey := FileScope.holdsSymbol_eq_true_iff.mp hholds
  rw [Symbol.file, show symbol.projectId = file.projectId from congrArg Prod.fst hkey,
    show symbol.filePath = file.filePath from congrArg (·.2.1) hkey]

theorem FileScope.file_eq_of_holdsImport {source name : String} {entry : Import}
    (hholds : file.holdsImport source name entry = true) : entry.file = file := by
  have hkey := FileScope.holdsImport_eq_true_iff.mp hholds
  rw [Import.file, show entry.projectId = file.projectId from congrArg Prod.fst hkey,
    show entry.filePath = file.filePath from congrArg (·.2.1) hkey]

/-- What holds a place in a file is found among the rows of the file. -/
theorem find?_symbolsOf (parentKey : Int) (name : String) :
    (store.symbolsOf file).find? (file.holdsSymbol parentKey name) =
      store.symbols.find? (file.holdsSymbol parentKey name) := by
  refine find?_filter_of_imp fun symbol _ hholds ↦ ?_
  exact decide_eq_true (FileScope.file_eq_of_holdsSymbol hholds)

theorem any_importsOf (source name : String) :
    (store.importsOf file).any (file.holdsImport source name) =
      store.imports.any (file.holdsImport source name) := by
  refine any_filter_of_imp fun entry _ hholds ↦ ?_
  exact decide_eq_true (FileScope.file_eq_of_holdsImport hholds)

theorem any_callsOf (callerId : Int) (callee : String) (line : Int) :
    (store.callsOf callerId).any (file.holdsCall callerId callee line) =
      store.calls.any (file.holdsCall callerId callee line) := by
  refine any_filter_of_imp fun call _ hholds ↦ ?_
  exact decide_eq_true (congrArg (·.2.1) (FileScope.holdsCall_eq_true_iff.mp hholds))

/-! ### Ids in use -/

/-- The tables whose ids other rows refer to or carry. -/
inductive Table where
  | symbols
  | imports
  | calls

/-- The ids of a table. -/
def ids (store : Store) : Table → List Int
  | .symbols => store.symbols.map (·.id)
  | .imports => store.imports.map (·.id)
  | .calls => store.calls.map (·.id)

/-- The id that the next row of a table gets. -/
def next (store : Store) (table : Table) : Int :=
  nextId (store.ids table)

/-- The ids that are in use stay in use when rows are added. -/
theorem nextId_le_of_subset {ids more : List Int} (hsubset : ids ⊆ more) :
    nextId ids ≤ nextId more := by
  have hle : ∀ start, start ≤ more.foldl max 0 → ids.foldl max start ≤ more.foldl max 0 := by
    induction ids with
    | nil => exact fun _ hstart ↦ hstart
    | cons first rest ih =>
      obtain ⟨hfirst, hrest⟩ := List.cons_subset.mp hsubset
      exact fun start hstart ↦ ih hrest _ (Int.max_le.mpr ⟨hstart, le_foldl_max hfirst 0⟩)
  exact Int.add_le_add_right (hle 0 (start_le_foldl_max more 0)) 1

theorem next_pos (store : Store) (table : Table) : 0 < store.next table :=
  one_le_nextId _

theorem TableGrows.ids_subset {α : Type} {keeps : α → α → Prop} {id : α → Int} {rows more : List α}
    (hgrows : TableGrows keeps rows more)
    (hid : ∀ {row amended}, keeps row amended → id amended = id row) :
    rows.map id ⊆ more.map id := by
  intro value hvalue
  obtain ⟨row, hrow, rfl⟩ := List.mem_map.mp hvalue
  obtain ⟨amended, hamended, hkeeps⟩ := hgrows.exists_mem hrow
  exact List.mem_map.mpr ⟨amended, hamended, hid hkeeps⟩

theorem Grows.next_le (hgrows : before.Grows after) (table : Table) :
    before.next table ≤ after.next table := by
  refine nextId_le_of_subset ?_
  cases table with
  | symbols => exact hgrows.symbols.ids_subset Symbol.Persists.id
  | imports => exact hgrows.imports.ids_subset Import.Persists.id
  | calls => exact hgrows.calls.ids_subset Call.Persists.id

/-- Adding a row takes the next id up by one. -/
theorem nextId_concat (ids : List Int) : nextId (ids ++ [nextId ids]) = nextId ids + 1 := by
  unfold nextId
  rw [List.foldl_append, List.foldl_cons, List.foldl_nil]
  omega

theorem id_lt_next_of_hasSymbol {id : Int} (hstored : store.hasSymbol id = true) :
    id < store.next .symbols := by
  obtain ⟨symbol, hmem, rfl⟩ := hasSymbol_eq_true_iff.mp hstored
  exact lt_nextId (List.mem_map_of_mem hmem)

theorem id_lt_next_of_mem_symbols {symbol : Symbol} (hsymbol : symbol ∈ store.symbols) :
    symbol.id < store.next .symbols :=
  lt_nextId (List.mem_map_of_mem hsymbol)

theorem id_lt_next_of_mem_imports {entry : Import} (hentry : entry ∈ store.imports) :
    entry.id < store.next .imports :=
  lt_nextId (List.mem_map_of_mem hentry)

theorem id_lt_next_of_mem_calls {call : Call} (hcall : call ∈ store.calls) :
    call.id < store.next .calls :=
  lt_nextId (List.mem_map_of_mem hcall)

/-- Nothing is called from a symbol that is yet to come. -/
theorem WellFormed.callsOf_eq_nil (hstore : store.WellFormed) {id : Int}
    (hid : store.next .symbols ≤ id) : store.callsOf id = [] := by
  refine List.filter_eq_nil_iff.mpr fun call hcall hcaller ↦ ?_
  have hlt := id_lt_next_of_hasSymbol (hstore.anchoredCalls call hcall).2.1
  rw [of_decide_eq_true hcaller] at hlt
  exact absurd hlt (Int.not_lt.mpr hid)

/-! ### What writes do to the rows of their file -/

section Writes

variable (file : FileScope) (parentId : Option Int) (declaration : Declaration)
  (mention : ImportMention) (callerId : Int) (callee : String) (line : Int) (store : Store)

theorem symbolsOf_amendSymbol : (store.amendSymbol file parentId declaration).symbolsOf file =
    amendWhere (file.holdsSymbol (parentId.getD 0) declaration.name) (·.takeOver declaration)
      (store.symbolsOf file) := by
  refine filter_amendWhere ?_ store.symbols
  exact fun symbol ↦ rfl

theorem symbolsOf_addSymbol : (store.addSymbol file parentId declaration).symbolsOf file =
    store.symbolsOf file ++ [file.newSymbol (store.next .symbols) parentId declaration] := by
  refine filter_concat_of_mem ?_ store.symbols
  exact decide_eq_true rfl

theorem importsOf_amendImport : (store.amendImport file mention).importsOf file =
    amendWhere (file.holdsImport mention.source mention.name) (·.takeOver mention)
      (store.importsOf file) := by
  refine filter_amendWhere ?_ store.imports
  exact fun entry ↦ rfl

theorem importsOf_addImport : (store.addImport file mention).importsOf file =
    store.importsOf file ++ [file.newImport (store.next .imports) mention] := by
  refine filter_concat_of_mem ?_ store.imports
  exact decide_eq_true rfl

theorem callsOf_addCall : (store.addCall file callerId callee line).callsOf callerId =
    store.callsOf callerId ++ [file.newCall (store.next .calls) callerId callee line] := by
  refine filter_concat_of_mem ?_ store.calls
  exact decide_eq_true rfl

theorem callsOf_addCall_of_ne {other : Int} (hother : callerId ≠ other) :
    (store.addCall file callerId callee line).callsOf other = store.callsOf other := by
  refine filter_concat_of_not_mem ?_ store.calls
  exact decide_eq_false hother

theorem next_amendSymbol (table : Table) :
    (store.amendSymbol file parentId declaration).next table = store.next table := by
  cases table with
  | symbols =>
    refine congrArg nextId (map_amendWhere ?_ store.symbols)
    exact fun symbol ↦ rfl
  | imports => rfl
  | calls => rfl

theorem next_amendImport (table : Table) :
    (store.amendImport file mention).next table = store.next table := by
  cases table with
  | symbols => rfl
  | imports =>
    refine congrArg nextId (map_amendWhere ?_ store.imports)
    exact fun entry ↦ rfl
  | calls => rfl

theorem next_addSymbol :
    (store.addSymbol file parentId declaration).next .symbols = store.next .symbols + 1 := by
  refine Eq.trans (congrArg nextId ?_) (nextId_concat (store.symbols.map (·.id)))
  exact List.map_append

theorem next_addImport :
    (store.addImport file mention).next .imports = store.next .imports + 1 := by
  refine Eq.trans (congrArg nextId ?_) (nextId_concat (store.imports.map (·.id)))
  exact List.map_append

theorem next_addCall :
    (store.addCall file callerId callee line).next .calls = store.next .calls + 1 := by
  refine Eq.trans (congrArg nextId ?_) (nextId_concat (store.calls.map (·.id)))
  exact List.map_append

/-- The symbols of a file keep their ids when some are overwritten. -/
theorem exists_mem_of_mem_amendSymbol {symbol : Symbol}
    (hsymbol : symbol ∈ (store.amendSymbol file parentId declaration).symbolsOf file) :
    ∃ before ∈ store.symbolsOf file, before.id = symbol.id := by
  rw [symbolsOf_amendSymbol] at hsymbol
  obtain ⟨before, hbefore, rfl⟩ := List.mem_map.mp hsymbol
  refine ⟨before, hbefore, ?_⟩
  split
  · rfl
  · rfl

end Writes

/-! ### Changes to one file -/

/-- Nothing but the symbols and the imports of the file has changed, and the calls from its
symbols. -/
structure ChangesOnly (file : FileScope) (before after : Store) : Prop where
  grows : before.Grows after
  projects : after.projects = before.projects
  symbols : ∀ other, other ≠ file → after.symbolsOf other = before.symbolsOf other
  imports : ∀ other, other ≠ file → after.importsOf other = before.importsOf other
  calls : ∀ id, (∀ symbol ∈ after.symbolsOf file, symbol.id ≠ id) →
    after.callsOf id = before.callsOf id

theorem isPreorder_changesOnly (file : FileScope) : IsPreorder (ChangesOnly file) where
  refl := fun store ↦ ⟨.refl store, rfl, fun _ _ ↦ rfl, fun _ _ ↦ rfl, fun _ _ ↦ rfl⟩
  trans := by
    intro first second third hfirst hsecond
    refine ⟨hfirst.grows.trans _ _ _ hsecond.grows, hsecond.projects.trans hfirst.projects,
      fun other hother ↦ (hsecond.symbols other hother).trans (hfirst.symbols other hother),
      fun other hother ↦ (hsecond.imports other hother).trans (hfirst.imports other hother),
      fun id hid ↦ (hsecond.calls id hid).trans (hfirst.calls id fun symbol hsymbol ↦ ?_)⟩
    obtain ⟨kept, hkept, hkeptId⟩ := hsecond.grows.exists_mem_symbolsOf hsymbol
    rw [← hkeptId]
    exact hid kept hkept

theorem changesOnly_upsertSymbol (file : FileScope) (parentId : Option Int)
    (declaration : Declaration) :
    Preserves (ChangesOnly file) (upsertSymbol file parentId declaration) := by
  intro store id later hrun
  have hgrows := grows_upsertSymbol file parentId declaration store id later hrun
  rcases upsertSymbol_cases hrun with ⟨_, _, _, _, _, rfl⟩ | ⟨_, _, _, _, rfl⟩
  · refine ⟨hgrows, rfl, fun other hother ↦ ?_, fun _ _ ↦ rfl, fun _ _ ↦ rfl⟩
    refine filter_amendWhere_of_disjoint ?_ ?_ store.symbols
    · exact fun symbol ↦ rfl
    · intro symbol hholds
      rw [FileScope.file_eq_of_holdsSymbol hholds]
      exact decide_eq_false hother.symm
  · refine ⟨hgrows, rfl, fun other hother ↦ ?_, fun _ _ ↦ rfl, fun _ _ ↦ rfl⟩
    refine filter_concat_of_not_mem ?_ store.symbols
    exact decide_eq_false hother.symm

theorem changesOnly_upsertImport (file : FileScope) (mention : ImportMention) :
    Preserves (ChangesOnly file) (upsertImport file mention) := by
  intro store value later hrun
  have hgrows := grows_upsertImport file mention store value later hrun
  rcases upsertImport_cases hrun with ⟨_, rfl⟩ | ⟨_, _, rfl⟩
  · refine ⟨hgrows, rfl, fun _ _ ↦ rfl, fun other hother ↦ ?_, fun _ _ ↦ rfl⟩
    refine filter_amendWhere_of_disjoint ?_ ?_ store.imports
    · exact fun entry ↦ rfl
    · intro entry hholds
      rw [FileScope.file_eq_of_holdsImport hholds]
      exact decide_eq_false hother.symm
  · refine ⟨hgrows, rfl, fun _ _ ↦ rfl, fun other hother ↦ ?_, fun _ _ ↦ rfl⟩
    refine filter_concat_of_not_mem ?_ store.imports
    exact decide_eq_false hother.symm

/-- A call is written among the calls of its caller. -/
theorem changesOnly_insertCall {callerId : Int} {callee : String} {line : Int} {isNew : Bool}
    (hcaller : ∃ symbol ∈ before.symbolsOf file, symbol.id = callerId)
    (hrun : (insertCall file callerId callee line).run before = .ok (isNew, after)) :
    ChangesOnly file before after := by
  have hgrows := grows_insertCall file callerId callee line before isNew after hrun
  rcases insertCall_cases hrun with ⟨_, _, rfl⟩ | ⟨_, _, _, _, rfl⟩
  · exact (isPreorder_changesOnly file).refl _
  · refine ⟨hgrows, rfl, fun _ _ ↦ rfl, fun _ _ ↦ rfl, fun id hid ↦ ?_⟩
    obtain ⟨symbol, hsymbol, rfl⟩ := hcaller
    refine filter_concat_of_not_mem ?_ before.calls
    exact decide_eq_false (hid symbol hsymbol)

end Store

end SymbolGraph
