import Mathlib.Logic.Relation
import SymbolGraph.Proofs.Ingest.Nesting
import SymbolGraph.Proofs.Pipeline.Operation
import SymbolGraph.Proofs.Store.Query

/-!
# Symbols form one tree per file

In every store that ordinary runs reach, the symbols of a file form one tree
(`formsTrees_storeAfterSteps`): its root is the only symbol without a parent and the only module,
and every other symbol has an older symbol of the file as its parent, so that going from parent to
parent ends at the root. So a project has as many files as modules.

The root is unique because the path of a file gives its module the name, and no two rows of a file
have the same parent and name.
-/

set_option autoImplicit false
set_option relaxedAutoImplicit false

namespace SymbolGraph

namespace Store

/-- The second symbol is stored as the parent of the first. -/
def IsParent (store : Store) (child parent : Symbol) : Prop :=
  parent ∈ store.symbols ∧ child.parentId = some parent.id

/-- The symbols of each file form one tree, with the module of the file at its root. -/
structure FormsTrees (store : Store) : Prop where
  root : ∀ symbol ∈ store.symbols, ∃ root,
    (store.symbolsInFile symbol.projectId symbol.filePath).filter (·.parentId.isNone) = [root] ∧
    (store.symbolsInFile symbol.projectId symbol.filePath).filter (·.kind = .module) = [root] ∧
    Relation.ReflTransGen store.IsParent symbol root
  parent : ∀ symbol ∈ store.symbols, ∀ parentId, symbol.parentId = some parentId →
    ∃ parent ∈ store.symbols, parent.id = parentId ∧ parent.projectId = symbol.projectId ∧
      parent.filePath = symbol.filePath ∧ parent.id < symbol.id ∧
      (symbol.kind = .method → parent.kind = .classType) ∧
      (symbol.kind = .variable → parent.kind = .module)
  files : ∀ project,
    ((store.overview project).symbolsByKind.lookup SymbolKind.module.text).getD 0 =
      (store.overview project).files

/-! ### Roots -/

variable {store : Store}

/-- The modules are the symbols without a parent. -/
theorem Nested.isModule_iff (hnested : store.Nested) {symbol : Symbol}
    (hsymbol : symbol ∈ store.symbols) : symbol.kind = .module ↔ symbol.parentId = none := by
  constructor
  · intro hkind
    cases hparent : symbol.parentId with
    | none => rfl
    | some parentId =>
      obtain ⟨parent, -, -, -, -, -, hfits⟩ := (hnested symbol hsymbol).parent parentId hparent
      exact absurd hkind hfits.ne_module
  · exact fun hroot ↦ ((hnested symbol hsymbol).root hroot).1

/-- A file has one symbol without a parent: the path gives its name. -/
theorem Nested.root_unique (hnested : store.Nested) (hstore : store.WellFormed)
    {first second : Symbol} (hfirst : first ∈ store.symbols) (hsecond : second ∈ store.symbols)
    (hproject : first.projectId = second.projectId) (hfile : first.filePath = second.filePath)
    (hfirstRoot : first.parentId = none) (hsecondRoot : second.parentId = none) :
    first = second := by
  refine hstore.symbols.eq_of_key_eq hfirst hsecond ?_
  have hname : first.name = second.name := by
    rw [((hnested first hfirst).root hfirstRoot).2, ((hnested second hsecond).root hsecondRoot).2,
      hfile]
  have hparent : first.parentKey = second.parentKey := by
    rw [hstore.parentKey first hfirst, hstore.parentKey second hsecond, hfirstRoot, hsecondRoot]
  rw [Symbol.key, Symbol.key, hproject, hfile, hparent, hname]

/-- Going from parent to parent ends at a symbol of the file without a parent, as ids become
smaller. -/
theorem Nested.exists_root (hnested : store.Nested) (hstore : store.WellFormed) {symbol : Symbol}
    (hsymbol : symbol ∈ store.symbols) : ∃ root ∈ store.symbols, root.parentId = none ∧
      root.projectId = symbol.projectId ∧ root.filePath = symbol.filePath ∧
      Relation.ReflTransGen store.IsParent symbol root := by
  -- the chain has no length of its own, but ids are positive and each parent's is smaller
  induction hid : symbol.id.toNat using Nat.strongRecOn generalizing symbol with
  | ind id ih =>
    cases hparent : symbol.parentId with
    | none => exact ⟨symbol, hsymbol, hparent, rfl, rfl, .refl⟩
    | some parentId =>
      obtain ⟨parent, hmem, rfl, hproject, hfile, hlt, -⟩ :=
        (hnested symbol hsymbol).parent parentId hparent
      have hpositive := hstore.symbols.positive parent hmem
      have hsmaller : parent.id.toNat < id := by omega
      obtain ⟨root, hroot, htop, hrootProject, hrootFile, hchain⟩ := ih _ hsmaller hmem rfl
      exact ⟨root, hroot, htop, hrootProject.trans hproject, hrootFile.trans hfile,
        .head ⟨hmem, hparent⟩ hchain⟩

/-- Going from parent to parent leads to smaller ids. -/
theorem Nested.id_le_of_chain (hnested : store.Nested) {symbol root : Symbol}
    (hsymbol : symbol ∈ store.symbols) (hchain : Relation.ReflTransGen store.IsParent symbol root) :
    root.id ≤ symbol.id := by
  induction hchain using Relation.ReflTransGen.head_induction_on with
  | refl => exact Int.le_refl root.id
  | head hparent _ ih =>
    obtain ⟨parent, -, hid, -, -, hlt, -⟩ := (hnested _ hsymbol).parent _ hparent.2
    have hbelow := ih hparent.1
    omega

/-- The root of a file is its oldest symbol. -/
theorem Nested.root_id_le (hnested : store.Nested) (hstore : store.WellFormed)
    {root symbol : Symbol} (hroot : root ∈ store.symbols) (htop : root.parentId = none)
    (hsymbol : symbol ∈ store.symbols) (hproject : symbol.projectId = root.projectId)
    (hfile : symbol.filePath = root.filePath) : root.id ≤ symbol.id := by
  obtain ⟨other, hother, hotherTop, hotherProject, hotherFile, hchain⟩ :=
    hnested.exists_root hstore hsymbol
  obtain rfl := hnested.root_unique hstore hroot hother (hotherProject.trans hproject).symm
    (hotherFile.trans hfile).symm htop hotherTop
  exact hnested.id_le_of_chain hsymbol hchain

theorem eq_singleton_of_nodup {α : Type} {rows : List α} {row : α} (hnodup : rows.Nodup)
    (hmem : ∀ other, other ∈ rows ↔ other = row) : rows = [row] := by
  have hperm := List.perm_ext_iff_of_nodup hnodup (List.nodup_singleton row)
  refine List.perm_singleton.mp (hperm.mpr fun other ↦ ?_)
  rw [hmem, List.mem_singleton]

/-- The root of a file is its only symbol without a parent and its only module. -/
theorem Nested.filter_eq_root (hnested : store.Nested) (hstore : store.WellFormed) {root : Symbol}
    (hroot : root ∈ store.symbols) (htop : root.parentId = none) {isRoot : Symbol → Bool}
    (hisRoot : ∀ symbol ∈ store.symbols, isRoot symbol = true ↔ symbol.parentId = none) :
    (store.symbolsInFile root.projectId root.filePath).filter isRoot = [root] := by
  have hnodup : (store.symbolsInFile root.projectId root.filePath).Nodup :=
    (perm_sortBy _ _).nodup_iff.mpr (hstore.symbols.nodup.filter _)
  refine eq_singleton_of_nodup (hnodup.filter _) fun symbol ↦ ?_
  rw [List.mem_filter, mem_symbolsInFile_iff]
  constructor
  · rintro ⟨⟨hmem, hproject, hfile⟩, htest⟩
    exact hnested.root_unique hstore hmem hroot hproject hfile ((hisRoot symbol hmem).mp htest) htop
  · rintro rfl
    exact ⟨⟨hroot, rfl, rfl⟩, (hisRoot symbol hroot).mpr htop⟩

/-! ### Files and modules -/

/-- A value is found under its key unless the filter drops it. -/
theorem lookup_filter {κ ν : Type} [DecidableEq κ] {keep : κ × ν → Bool} {entries : List (κ × ν)}
    (hkeys : (entries.map Prod.fst).Nodup) (key : κ) :
    (entries.filter keep).lookup key =
      (entries.lookup key).filter fun value ↦ keep (key, value) := by
  induction entries with
  | nil => rfl
  | cons entry rest ih =>
    obtain ⟨hfree, hrest⟩ := List.nodup_cons.mp hkeys
    obtain ⟨stored, value⟩ := entry
    have hfiltered := ih hrest
    rw [List.filter_cons, List.lookup_cons]
    by_cases hkey : key = stored
    · subst hkey
      have hnone : rest.lookup key = none := by
        refine List.lookup_eq_none_iff.mpr fun other hother ↦ ?_
        rw [bne_iff_ne]
        exact fun hsame ↦ hfree (List.mem_map.mpr ⟨other, hother, hsame.symm⟩)
      cases hkeep : keep (key, value) with
      | true => simp [Option.filter, hkeep]
      | false => simp [Option.filter, hkeep, hfiltered, hnone]
    · cases hkeep : keep (stored, value) with
      | true => simp [List.lookup_cons, beq_false_of_ne hkey, hfiltered]
      | false => simp [beq_false_of_ne hkey, hfiltered]

/-- The symbols of a project. -/
def symbolsOfProject (store : Store) (projectId : Int) : List Symbol :=
  store.symbols.filter fun symbol ↦ symbol.projectId == projectId

/-- The modules of a project. -/
def modulesOfProject (store : Store) (projectId : Int) : List Symbol :=
  (store.symbolsOfProject projectId).filter (·.kind = .module)

/-- The overview counts the modules of the project among its kinds. -/
theorem overview_modules (store : Store) (project : Project) :
    ((store.overview project).symbolsByKind.lookup SymbolKind.module.text).getD 0 =
      (store.modulesOfProject project.id).length := by
  have hcount : (store.modulesOfProject project.id).length =
      (store.symbolsOfProject project.id).countP (·.kind = .module) :=
    List.countP_eq_length_filter.symm
  have hlookup : (SymbolKind.all.map fun kind ↦
      (kind.text, (store.symbolsOfProject project.id).countP (·.kind = kind))).lookup
        SymbolKind.module.text =
      some ((store.symbolsOfProject project.id).countP (·.kind = .module)) := by
    simp [SymbolKind.all, SymbolKind.text, List.lookup_cons]
  have hkeys : ((SymbolKind.all.map fun kind ↦
      (kind.text, (store.symbolsOfProject project.id).countP (·.kind = kind))).map
        Prod.fst).Nodup := by
    simp [SymbolKind.all, SymbolKind.text]
  change (((SymbolKind.all.map fun kind ↦
    (kind.text, (store.symbolsOfProject project.id).countP (·.kind = kind))).filter
      fun entry ↦ entry.2 ≠ 0).lookup SymbolKind.module.text).getD 0 = _
  rw [lookup_filter hkeys, hlookup, Option.filter_some, hcount]
  split
  · rfl
  · rename_i hzero
    exact (Decidable.not_not.mp fun hne ↦ hzero (decide_eq_true hne)).symm

/-- The paths of a project's symbols are those of its modules, each file having one. -/
theorem Nested.overview_files (hnested : store.Nested) (hstore : store.WellFormed)
    (project : Project) :
    (store.overview project).files = (store.modulesOfProject project.id).length := by
  have hmodule : ∀ symbol, symbol ∈ store.modulesOfProject project.id ↔ symbol ∈ store.symbols ∧
      symbol.projectId = project.id ∧ symbol.kind = .module := by
    intro symbol
    rw [modulesOfProject, List.mem_filter, symbolsOfProject, List.mem_filter, beq_iff_eq,
      decide_eq_true_iff, and_assoc]
  have hnodup : ((store.modulesOfProject project.id).map (·.filePath)).Nodup := by
    refine List.Nodup.map_on ?_ ((hstore.symbols.nodup.filter _).filter _)
    intro first hfirst second hsecond hfile
    obtain ⟨hfirstMem, hfirstProject, hfirstKind⟩ := (hmodule first).mp hfirst
    obtain ⟨hsecondMem, hsecondProject, hsecondKind⟩ := (hmodule second).mp hsecond
    exact hnested.root_unique hstore hfirstMem hsecondMem
      (hfirstProject.trans hsecondProject.symm) hfile
      ((hnested.isModule_iff hfirstMem).mp hfirstKind)
      ((hnested.isModule_iff hsecondMem).mp hsecondKind)
  have hperm : ((store.symbolsOfProject project.id).map (·.filePath)).eraseDups.Perm
      ((store.modulesOfProject project.id).map (·.filePath)) := by
    refine (List.perm_ext_iff_of_nodup (nodup_eraseDups _) hnodup).mpr fun path ↦ ?_
    rw [List.mem_eraseDups, List.mem_map, List.mem_map]
    constructor
    · rintro ⟨symbol, hsymbol, rfl⟩
      obtain ⟨hmem, hproject⟩ := List.mem_filter.mp hsymbol
      obtain ⟨root, hroot, htop, hrootProject, hrootFile, -⟩ := hnested.exists_root hstore hmem
      refine ⟨root, (hmodule root).mpr ⟨hroot, ?_, ?_⟩, hrootFile⟩
      · rw [hrootProject]
        exact eq_of_beq hproject
      · exact (hnested.isModule_iff hroot).mpr htop
    · rintro ⟨symbol, hsymbol, rfl⟩
      exact ⟨symbol, (List.mem_filter.mp hsymbol).1, rfl⟩
  exact hperm.length_eq.trans (List.length_map _)

/-- A nested store forms trees. -/
theorem Nested.formsTrees (hnested : store.Nested) (hstore : store.WellFormed) :
    store.FormsTrees where
  root := by
    intro symbol hsymbol
    obtain ⟨root, hroot, htop, hproject, hfile, hchain⟩ := hnested.exists_root hstore hsymbol
    refine ⟨root, ?_, ?_, hchain⟩
    · rw [← hproject, ← hfile]
      exact hnested.filter_eq_root hstore hroot htop fun other _ ↦ Option.isNone_iff_eq_none
    · rw [← hproject, ← hfile]
      refine hnested.filter_eq_root hstore hroot htop fun other hother ↦ ?_
      rw [decide_eq_true_iff]
      exact hnested.isModule_iff hother
  parent := by
    intro symbol hsymbol parentId hparent
    obtain ⟨parent, hmem, hid, hproject, hfile, hlt, hfits⟩ :=
      (hnested symbol hsymbol).parent parentId hparent
    refine ⟨parent, hmem, hid, hproject, hfile, hlt, ?_, ?_⟩
    · intro hkind
      rw [hkind] at hfits
      exact hfits.eq_classType
    · intro hkind
      rw [hkind] at hfits
      exact hfits.eq_module
  files := fun project ↦
    (overview_modules store project).trans (hnested.overview_files hstore project).symm

end Store

/-- A step of an ordinary run keeps the store nested. -/
theorem nested_apply (step : PipelineStep) {store : Store} (hstore : store.WellFormed)
    (hnested : store.Nested) : (step.operation.apply store).Nested := by
  cases step with
  | ensureProject name url =>
    have hkept := (Store.sameSymbols_ensureProject name url).attempt Store.isPreorder_sameSymbols
    exact hnested.of_sameSymbols (hkept store)
  | ingestFile projectId path source =>
    have hkept := Ingest.nested_file projectId path source
    exact hkept.attempt Store.isPreorder_keepsNested store hnested
  | link projectId batchSize =>
    rw [PipelineStep.operation, apply_link hstore]
    exact hnested.of_sameSymbols rfl

/-- In every store that ordinary runs over any projects reach, the symbols of each file form one
tree. -/
theorem formsTrees_storeAfterSteps (steps : List PipelineStep) :
    (storeAfterSteps steps).FormsTrees := by
  have hnested : (storeAfterSteps steps).Nested := by
    refine storeAfterSteps_induct Store.nested_empty ?_ steps
    exact fun store step hstore hnested ↦ nested_apply step hstore hnested
  exact hnested.formsTrees (wellFormed_storeAfter _)

end SymbolGraph
