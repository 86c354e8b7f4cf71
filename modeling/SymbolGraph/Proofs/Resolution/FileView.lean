import SymbolGraph.Proofs.Store.Query
import SymbolGraph.Proofs.Store.WellFormed
import SymbolGraph.Resolution.FileView

/-!
# What names mean inside one file

Whatever a name means in a file is a symbol of the file with this name
(`mem_of_childNamed_eq_some`, `mem_of_bestNamed_eq_some`, `mem_of_scopedNamed_eq_some`), or what a
resolved import of the file stands for (`exists_import_of_resolvedImport_eq_some`). A bare name
means a symbol directly inside one that opens a scope, or a top-level one
(`place_of_scopedNamed_eq_some`).
-/

set_option autoImplicit false
set_option relaxedAutoImplicit false

namespace SymbolGraph

namespace FileView

variable {file : FileView} {name : String} {symbol : Symbol}

/-- A symbol that is found by its id is one of the file and has the id. -/
theorem mem_of_symbol?_eq_some {id : Int} (hfound : file.symbol? id = some symbol) :
    symbol ∈ file.symbols ∧ symbol.id = id := by
  have hid := List.find?_some hfound
  exact ⟨List.mem_of_find?_eq_some hfound, by simpa using hid⟩

theorem mem_of_childNamed_eq_some {parentId : Int}
    (hfound : file.childNamed parentId name = some symbol) :
    symbol ∈ file.symbols ∧ symbol.parentId = some parentId ∧ symbol.name = name := by
  have htest := List.find?_some hfound
  rw [Bool.and_eq_true, beq_iff_eq, beq_iff_eq] at htest
  exact ⟨List.mem_of_find?_eq_some hfound, htest⟩

theorem isNamed_eq_true_iff : isNamed name symbol = true ↔
    symbol.name = name ∧ symbol.kind ≠ .module := by
  simp [isNamed]

theorem mem_of_bestNamed_eq_some (hfound : file.bestNamed name = some symbol) :
    symbol ∈ file.symbols ∧ symbol.name = name ∧ symbol.kind ≠ .module := by
  rcases Option.or_eq_some_iff.mp hfound with htop | ⟨-, hany⟩
  · have htest := List.find?_some htop
    rw [Bool.and_eq_true] at htest
    exact ⟨List.mem_of_find?_eq_some htop, isNamed_eq_true_iff.mp htest.1⟩
  · exact ⟨List.mem_of_find?_eq_some hany, isNamed_eq_true_iff.mp (List.find?_some hany)⟩

theorem mem_of_scopedNamed_eq_some {sourceId : Int}
    (hfound : file.scopedNamed name sourceId = some symbol) :
    symbol ∈ file.symbols ∧ symbol.name = name := by
  rcases Option.or_eq_some_iff.mp hfound with hscope | ⟨-, htop⟩
  · obtain ⟨scope, -, hchild⟩ := List.exists_of_findSome?_eq_some hscope
    split at hchild
    · obtain ⟨hmem, -, hname⟩ := mem_of_childNamed_eq_some hchild
      exact ⟨hmem, hname⟩
    · cases hchild
  · have htest := List.find?_some htop
    rw [Bool.and_eq_true] at htest
    exact ⟨List.mem_of_find?_eq_some htop, (isNamed_eq_true_iff.mp htest.1).1⟩

theorem exists_of_moduleId?_eq_some {id : Int} (hfound : file.moduleId? = some id) :
    ∃ owner ∈ file.symbols, owner.id = id ∧ owner.kind = .module := by
  obtain ⟨owner, howner, rfl⟩ := Option.map_eq_some_iff.mp hfound
  have htest := List.find?_some howner
  rw [Bool.and_eq_true, beq_iff_eq] at htest
  exact ⟨owner, List.mem_of_find?_eq_some howner, rfl, htest.2⟩

@[simp]
theorem chain_none (file : FileView) (levels : Nat) : file.chain levels none = [] := by
  cases levels with
  | zero => rfl
  | succ levels => rfl

/-- A symbol and those around it are symbols of the file. -/
theorem mem_of_mem_chain {levels : Nat} {start : Option Symbol}
    (hstart : ∀ first, start = some first → first ∈ file.symbols)
    (hmem : symbol ∈ file.chain levels start) : symbol ∈ file.symbols := by
  induction levels generalizing start with
  | zero => cases hmem
  | succ levels ih =>
    cases start with
    | none => cases hmem
    | some first =>
      rcases List.mem_cons.mp hmem with rfl | houter
      · exact hstart _ rfl
      · refine ih (fun outer houter ↦ ?_) houter
        obtain ⟨parentId, -, hparent⟩ := Option.bind_eq_some_iff.mp houter
        exact List.mem_of_find?_eq_some hparent

theorem mem_of_mem_enclosing {id : Int} (hmem : symbol ∈ file.enclosing id) :
    symbol ∈ file.symbols :=
  mem_of_mem_chain (fun _ hfirst ↦ List.mem_of_find?_eq_some hfirst) hmem

/-- A bare name means what is declared directly inside a symbol that opens a scope, or a symbol at
the top level that is no module. -/
theorem place_of_scopedNamed_eq_some {sourceId : Int}
    (hfound : file.scopedNamed name sourceId = some symbol) :
    (∃ scope ∈ file.symbols, opensScope scope = true ∧ symbol.parentId = some scope.id) ∨
      (symbol.kind ≠ .module ∧ file.isTopLevel symbol = true) := by
  rcases Option.or_eq_some_iff.mp hfound with hscope | ⟨-, htop⟩
  · obtain ⟨scope, hencloses, hchild⟩ := List.exists_of_findSome?_eq_some hscope
    split at hchild
    · rename_i hopens
      exact Or.inl ⟨scope, mem_of_mem_enclosing hencloses, hopens,
        (mem_of_childNamed_eq_some hchild).2.1⟩
    · cases hchild
  · have htest := List.find?_some htop
    rw [Bool.and_eq_true] at htest
    exact Or.inr ⟨(isNamed_eq_true_iff.mp htest.1).2, htest.2⟩

/-- What an imported name stands for is the symbol of a resolved import of that local name. -/
theorem exists_import_of_resolvedImport_eq_some {symbolId : Int}
    (hfound : file.resolvedImport name = some symbolId) :
    ∃ entry ∈ file.imports, entry.isResolved = true ∧ entry.localName = name ∧
      entry.target = some symbolId := by
  obtain ⟨entry, hentry, htarget⟩ := Option.bind_eq_some_iff.mp hfound
  have htest := List.find?_some hentry
  rw [Bool.and_eq_true, beq_iff_eq] at htest
  exact ⟨entry, List.mem_of_find?_eq_some hentry, htest.1, htest.2, htarget⟩

/-- An imported name stands for the symbol of the only import of that local name. -/
theorem resolvedImport_of_unique {entry : Import} (hentry : entry ∈ file.imports)
    (hresolved : entry.isResolved = true)
    (hunique : ∀ other ∈ file.imports, other.localName = entry.localName → other = entry) :
    file.resolvedImport entry.localName = entry.target := by
  unfold resolvedImport
  cases hfound : file.imports.find? fun other ↦
      other.isResolved && other.localName == entry.localName with
  | none =>
    refine absurd ?_ (List.find?_eq_none.mp hfound entry hentry)
    rw [hresolved, beq_self_eq_true]
    rfl
  | some other =>
    have htest := List.find?_some hfound
    rw [Bool.and_eq_true, beq_iff_eq] at htest
    rw [hunique other (List.mem_of_find?_eq_some hfound) htest.2]
    rfl

/-- The rows are in source order. -/
def IsSorted (file : FileView) : Prop :=
  (file.symbols.Pairwise fun left right ↦ (left.compareByLine right).isLE = true) ∧
    file.imports.Pairwise fun left right ↦ (left.compareByLine right).isLE = true

instance (file : FileView) : Decidable file.IsSorted :=
  inferInstanceAs (Decidable (_ ∧ _))

end FileView

namespace Store

variable {store : Store} {projectId : Int} {filePath : String}

theorem mem_symbols_fileView_iff {symbol : Symbol} :
    symbol ∈ (store.fileView projectId filePath).symbols ↔
      symbol ∈ store.symbols ∧ symbol.projectId = projectId ∧ symbol.filePath = filePath :=
  mem_symbolsInFile_iff

theorem mem_imports_fileView_iff {entry : Import} :
    entry ∈ (store.fileView projectId filePath).imports ↔
      entry ∈ store.imports ∧ entry.projectId = projectId ∧ entry.filePath = filePath :=
  mem_importsInFile_iff

/-- The rows of a file in the order of the tables. -/
def storedView (store : Store) (projectId : Int) (filePath : String) : FileView where
  symbols := store.symbols.filter fun symbol ↦
    symbol.projectId == projectId && symbol.filePath == filePath
  imports := store.imports.filter fun entry ↦
    entry.projectId == projectId && entry.filePath == filePath

/-- Rows that are stored in source order are what is known about the file. -/
theorem fileView_of_isSorted (hsorted : (store.storedView projectId filePath).IsSorted) :
    store.fileView projectId filePath = store.storedView projectId filePath :=
  congrArg₂ FileView.mk (List.mergeSort_of_pairwise hsorted.1)
    (List.mergeSort_of_pairwise hsorted.2)

/-- A symbol is the only one of its name inside its parent. -/
theorem WellFormed.childNamed_fileView (hstore : store.WellFormed) {symbol : Symbol}
    (hsymbol : symbol ∈ store.symbols) {parentId : Int}
    (hparent : symbol.parentId = some parentId) :
    (store.fileView symbol.projectId symbol.filePath).childNamed parentId symbol.name =
      some symbol := by
  cases hfound : (store.fileView symbol.projectId symbol.filePath).childNamed parentId
      symbol.name with
  | none =>
    have hmem := mem_symbols_fileView_iff.mpr ⟨hsymbol, rfl, rfl⟩
    refine absurd ?_ (List.find?_eq_none.mp hfound symbol hmem)
    rw [hparent, beq_self_eq_true, beq_self_eq_true]
    rfl
  | some other =>
    obtain ⟨hmem, hotherParent, hname⟩ := FileView.mem_of_childNamed_eq_some hfound
    obtain ⟨hother, hproject, hfile⟩ := mem_symbols_fileView_iff.mp hmem
    refine congrArg some (hstore.symbols.eq_of_key_eq hother hsymbol ?_)
    rw [Symbol.key, Symbol.key, hproject, hfile, hname, hstore.parentKey other hother,
      hstore.parentKey symbol hsymbol, hparent, hotherParent]

end Store

end SymbolGraph
