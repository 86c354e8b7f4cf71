import SymbolGraph.Ingest.File
import SymbolGraph.Proofs.Ingest.Writes
import SymbolGraph.Proofs.JavaScript.Nesting
import SymbolGraph.Proofs.Python.Nesting
import SymbolGraph.Proofs.Store.WellFormed

/-!
# Stored symbols nest

A store is `Nested` when a row without a parent is the module of its file, under the name that the
path gives it, and any other row has an older row of the same file as its parent, which it fits
into. Storing a file keeps a store nested (`nested_file`): a declaration is offered below the row
that its parent's tag was exchanged for, and this row has the parent's kind, because a row of
another kind is a conflict and gives no id (`ScopeHolds`).
-/

set_option autoImplicit false
set_option relaxedAutoImplicit false

namespace SymbolGraph

open SymbolKind (FitsIn)

/-! ### Files -/

namespace SourceFile

/-- The name of the module of a file. -/
def moduleName (path : String) : String :=
  match Language.ofPath? path with
  | none => ""
  | some .python => Python.ModuleName.leaf (Python.ModuleName.ofPath path)
  | some .javaScript => JavaScript.Specifier.stem path

/-- What is read from a file is the extraction of its program, in the language of its path. -/
theorem extract_cases {path source : String} {read : Extraction}
    (hread : extract path source = .ok read) :
    (Language.ofPath? path = some .python ∧ ∃ program, Python.parse? source = some program ∧
      read = Python.extraction path source program) ∨
    (Language.ofPath? path = some .javaScript ∧ ∃ program,
      JavaScript.parse? source = some program ∧
        read = JavaScript.extraction path source program) := by
  unfold extract at hread
  split at hread
  · cases hread
  · split at hread
    · rename_i hlanguage _ program hparse
      exact Or.inl ⟨hlanguage, program, hparse, (Except.ok.inj hread).symm⟩
    · cases hread
  · split at hread
    · rename_i hlanguage _ program hparse
      exact Or.inr ⟨hlanguage, program, hparse, (Except.ok.inj hread).symm⟩
    · cases hread

/-- A file of which something is seen is read. -/
theorem exists_extract_of_map {α : Type} {path source : String} {view : Extraction → α} {seen : α}
    (hview : (extract path source).toOption.map view = some seen) :
    ∃ read, extract path source = .ok read ∧ view read = seen := by
  cases hread : extract path source with
  | error failure =>
    rw [hread] at hview
    cases hview
  | ok read =>
    rw [hread] at hview
    exact ⟨read, rfl, Option.some.inj hview⟩

variable {path source : String} {read : Extraction} (hread : extract path source = .ok read)
include hread

/-- What is read from a file is its module and more. -/
theorem exists_extends_extract : ∃ fits, Extraction.Extends fits
    (.ofModule (moduleName path) source) read := by
  rcases extract_cases hread with ⟨hlanguage, program, -, rfl⟩ | ⟨hlanguage, program, -, rfl⟩
  · rw [moduleName, hlanguage]
    exact ⟨_, Python.extends_extraction path source program⟩
  · rw [moduleName, hlanguage]
    exact ⟨_, JavaScript.extends_extraction path source program⟩

/-- What is read from a file nests, in either language. -/
theorem nested_extract :
    Extraction.Nested (fun _ ↦ FitsIn) (moduleName path) read.declarations := by
  rcases extract_cases hread with ⟨hlanguage, program, -, rfl⟩ | ⟨hlanguage, program, -, rfl⟩
  · rw [moduleName, hlanguage]
    exact (Python.nested_extraction path source program).mono fun _ _ _ hfits ↦ hfits.1
  · rw [moduleName, hlanguage]
    exact JavaScript.nested_extraction path source program

end SourceFile

/-! ### Rows -/

/-- The symbol is the module of its file, or it fits into an older one of the file. -/
structure Symbol.IsNested (store : Store) (symbol : Symbol) : Prop where
  root : symbol.parentId = none →
    symbol.kind = .module ∧ symbol.name = SourceFile.moduleName symbol.filePath
  parent : ∀ parentId, symbol.parentId = some parentId → ∃ parent ∈ store.symbols,
    parent.id = parentId ∧ parent.projectId = symbol.projectId ∧
      parent.filePath = symbol.filePath ∧ parent.id < symbol.id ∧ symbol.kind.FitsIn parent.kind

theorem Symbol.IsNested.grows {before after : Store} (hgrows : before.Grows after)
    {symbol : Symbol} (hnested : symbol.IsNested before) : symbol.IsNested after where
  root := hnested.root
  parent := by
    intro parentId hparent
    obtain ⟨parent, hmem, hid, hproject, hfile, hlt, hfits⟩ := hnested.parent parentId hparent
    obtain ⟨kept, hkept, hpersists⟩ := hgrows.symbols.exists_mem hmem
    refine ⟨kept, hkept, hpersists.id.trans hid, hpersists.projectId.trans hproject,
      hpersists.filePath.trans hfile, ?_, ?_⟩
    · rw [hpersists.id]
      exact hlt
    · rw [hpersists.kind]
      exact hfits

namespace Store

/-- All symbols are nested. -/
def Nested (store : Store) : Prop :=
  ∀ symbol ∈ store.symbols, symbol.IsNested store

theorem nested_empty : empty.Nested := by
  intro symbol hsymbol
  cases hsymbol

/-- The store after is nested when the store before is. -/
def KeepsNested (before after : Store) : Prop :=
  before.Nested → after.Nested

theorem isPreorder_keepsNested : IsPreorder KeepsNested where
  refl := fun _ ↦ id
  trans := fun _ _ _ hfirst hsecond hstore ↦ hsecond (hfirst hstore)

/-- The two stores have the same symbols. -/
def SameSymbols (before after : Store) : Prop :=
  after.symbols = before.symbols

theorem isPreorder_sameSymbols : IsPreorder SameSymbols where
  refl := fun _ ↦ rfl
  trans := fun _ _ _ hfirst hsecond ↦ hsecond.trans hfirst

theorem sameSymbols_ensureProject (name url : String) :
    Preserves SameSymbols (ensureProject name url) := by
  intro store project later hrun
  rcases ensureProject_cases hrun with ⟨_, _, rfl⟩ | ⟨_, _, rfl⟩
  · rfl
  · rfl

theorem sameSymbols_upsertImport (file : FileScope) (mention : ImportMention) :
    Preserves SameSymbols (upsertImport file mention) := by
  intro store value later hrun
  rcases upsertImport_cases hrun with ⟨_, rfl⟩ | ⟨_, _, rfl⟩
  · rfl
  · rfl

theorem sameSymbols_insertCall (file : FileScope) (callerId : Int) (callee : String)
    (line : Int) : Preserves SameSymbols (insertCall file callerId callee line) := by
  intro store isNew later hrun
  rcases insertCall_cases hrun with ⟨_, _, rfl⟩ | ⟨_, _, _, _, rfl⟩
  · rfl
  · rfl

theorem Nested.of_sameSymbols {before after : Store} (hbefore : before.Nested)
    (hsame : before.SameSymbols after) : after.Nested := by
  intro symbol hsymbol
  rw [hsame] at hsymbol
  refine ⟨(hbefore symbol hsymbol).root, fun parentId hparent ↦ ?_⟩
  rw [hsame]
  exact (hbefore symbol hsymbol).parent parentId hparent

/-- The file has a symbol with the id and the kind. -/
def HasRow (store : Store) (file : FileScope) (id : Int) (kind : SymbolKind) : Prop :=
  ∃ symbol ∈ store.symbols, symbol.id = id ∧ symbol.projectId = file.projectId ∧
    symbol.filePath = file.filePath ∧ symbol.kind = kind

theorem HasRow.grows {before after : Store} (hgrows : before.Grows after) {file : FileScope}
    {id : Int} {kind : SymbolKind} (hrow : before.HasRow file id kind) :
    after.HasRow file id kind := by
  obtain ⟨symbol, hmem, hid, hproject, hfile, hkind⟩ := hrow
  obtain ⟨kept, hkept, hpersists⟩ := hgrows.symbols.exists_mem hmem
  exact ⟨kept, hkept, hpersists.id.trans hid, hpersists.projectId.trans hproject,
    hpersists.filePath.trans hfile, hpersists.kind.trans hkind⟩

/-- The id of a symbol that was written is that of a row of the file, of the declared kind. -/
theorem hasRow_upsertSymbol {store later : Store} {file : FileScope} {parentId : Option Int}
    {declaration : Declaration} {id : Int}
    (hrun : (upsertSymbol file parentId declaration).run store = .ok (id, later)) :
    later.HasRow file id declaration.kind := by
  have hgrows := grows_upsertSymbol file parentId declaration store id later hrun
  rcases upsertSymbol_cases hrun with
    ⟨existing, hexisting, hholds, hkind, rfl, -⟩ | ⟨-, -, -, -, rfl⟩
  · have hkey := FileScope.holdsSymbol_eq_true_iff.mp hholds
    exact HasRow.grows hgrows
      ⟨existing, hexisting, rfl, congrArg Prod.fst hkey, congrArg (·.2.1) hkey, hkind⟩
  · exact ⟨_, List.mem_append_right _ (List.mem_singleton_self _), rfl, rfl, rfl, rfl⟩

/-- The declaration may be written at the place: as the module of the file, or below a row of the
file that it fits into. -/
def MayHold (store : Store) (file : FileScope) (parentId : Option Int)
    (declaration : Declaration) : Prop :=
  (parentId = none ∧ declaration.kind = .module ∧
    declaration.name = SourceFile.moduleName file.filePath) ∨
  ∃ id kind, parentId = some id ∧ store.HasRow file id kind ∧ declaration.kind.FitsIn kind

/-- Writing a symbol where it may be keeps the store nested. -/
theorem nested_upsertSymbol {store later : Store} {file : FileScope} {parentId : Option Int}
    {declaration : Declaration} {id : Int} (hstore : store.Nested)
    (hplace : store.MayHold file parentId declaration)
    (hrun : (upsertSymbol file parentId declaration).run store = .ok (id, later)) :
    later.Nested := by
  have hgrows := grows_upsertSymbol file parentId declaration store id later hrun
  have hkept : ∀ symbol ∈ store.symbols, symbol.IsNested later := fun symbol hsymbol ↦
    (hstore symbol hsymbol).grows hgrows
  rcases upsertSymbol_cases hrun with ⟨-, -, -, -, -, rfl⟩ | ⟨-, -, -, hid, rfl⟩
  · exact forall_mem_amendWhere hkept fun symbol _ hnested ↦ ⟨hnested.root, hnested.parent⟩
  · refine forall_mem_concat hkept ⟨?_, ?_⟩
    · intro hroot
      rcases hplace with ⟨-, hkind, hname⟩ | ⟨parent, kind, hparent, -⟩
      · exact ⟨hkind, hname⟩
      · rw [hparent] at hroot
        cases hroot
    · intro parent hparent
      rcases hplace with ⟨hroot, -⟩ | ⟨parentRow, kind, hplaced, hrow, hfits⟩
      · rw [hroot] at hparent
        cases hparent
      · obtain rfl := Option.some.inj (hplaced.symm.trans hparent)
        obtain ⟨row, hmem, hrowId, hproject, hfile, rfl⟩ := hrow
        have hlt : row.id < id := by
          rw [hid]
          exact lt_nextId (List.mem_map_of_mem hmem)
        exact ⟨row, List.mem_append_left _ hmem, hrowId, hproject, hfile, hlt, hfits⟩

end Store

/-! ### Tags and rows -/

namespace Ingest

variable {file : Store.FileScope} {declared : List Declaration}

/-- A tag with an id is that of a declaration, and the id is that of a row of its kind. -/
def ScopeHolds (file : Store.FileScope) (declared : List Declaration) (scope : IdentityScope)
    (store : Store) : Prop :=
  ∀ tag id, scope.resolve? tag = some id →
    ∃ declaration ∈ declared, declaration.tag = tag ∧ store.HasRow file id declaration.kind

theorem scopeHolds_empty (file : Store.FileScope) (declared : List Declaration) (store : Store) :
    ScopeHolds file declared .empty store := by
  intro tag id hfound
  cases hfound

theorem ScopeHolds.record {scope : IdentityScope} {before after : Store}
    (hscope : ScopeHolds file declared scope before) (hgrows : before.Grows after)
    {declaration : Declaration} (hdeclaration : declaration ∈ declared) {id : Int}
    (hrow : after.HasRow file id declaration.kind) :
    ScopeHolds file declared (scope.record declaration.tag id) after := by
  intro tag other hfound
  rw [IdentityScope.resolve?_record] at hfound
  split at hfound
  · rename_i hsame
    obtain rfl := Option.some.inj hfound
    exact ⟨declaration, hdeclaration, hsame.symm, hrow⟩
  · obtain ⟨earlier, hearlier, htag, hold⟩ := hscope tag other hfound
    exact ⟨earlier, hearlier, htag, hold.grows hgrows⟩

/-- A declaration without a parent is offered as the module of the file. -/
theorem mayHold_of_root
    (hnested : Extraction.Nested (fun _ ↦ FitsIn) (SourceFile.moduleName file.filePath) declared)
    {declaration : Declaration} (hdeclaration : declaration ∈ declared) {scope : IdentityScope}
    (hlink : scope.parentLink declaration.parent = .root) (store : Store) :
    store.MayHold file none declaration := by
  rcases hnested.owner declaration hdeclaration with ⟨-, hmodule⟩ | ⟨owner, -, hparent, -⟩
  · exact Or.inl ⟨rfl, hmodule⟩
  · rw [hparent, IdentityScope.parentLink] at hlink
    split at hlink
    · cases hlink
    · cases hlink

/-- A declaration with a parent is offered below a row that it fits into: the tag of its parent was
exchanged for the id of a row of the parent's kind. -/
theorem mayHold_of_resolved
    (hnested : Extraction.Nested (fun _ ↦ FitsIn) (SourceFile.moduleName file.filePath) declared)
    {declaration : Declaration} (hdeclaration : declaration ∈ declared) {scope : IdentityScope}
    {store : Store} (hscope : ScopeHolds file declared scope store) {id : Int}
    (hlink : scope.parentLink declaration.parent = .resolved id) :
    store.MayHold file (some id) declaration := by
  rcases hnested.owner declaration hdeclaration with ⟨hroot, -⟩ | ⟨owner, howner, hparent, -, hfits⟩
  · rw [hroot] at hlink
    cases hlink
  · rw [hparent, IdentityScope.parentLink] at hlink
    split at hlink
    · rename_i ownerId hfound
      obtain rfl := ParentLink.resolved.inj hlink
      obtain ⟨around, haround, htag, hrow⟩ := hscope owner.tag ownerId hfound
      obtain rfl := hnested.eq_of_tag_eq haround howner htag
      exact Or.inr ⟨ownerId, around.kind, rfl, hrow, hfits⟩
    · cases hlink

/-! ### Storing a file -/

/-- Offering a declaration where it may be keeps the store nested and the tags with their rows. -/
theorem nested_persistBelow {declaration : Declaration} (hdeclaration : declaration ∈ declared)
    {parentId : Option Int} {state next : PersistState} {store later : Store}
    (hstore : store.Nested) (hscope : ScopeHolds file declared state.scope store)
    (hplace : store.MayHold file parentId declaration)
    (hrun : persistBelow (storeSink file) parentId declaration state store = (.ok next, later)) :
    later.Nested ∧ ScopeHolds file declared next.scope later := by
  unfold persistBelow storeSink Store.attempt at hrun
  cases hwrite : (Store.upsertSymbol file parentId declaration).run store with
  | ok answer =>
    obtain ⟨id, written⟩ := answer
    rw [hwrite] at hrun
    cases hrun
    have hgrows := Store.grows_upsertSymbol file parentId declaration store _ _ hwrite
    exact ⟨Store.nested_upsertSymbol hstore hplace hwrite,
      hscope.record hgrows hdeclaration (Store.hasRow_upsertSymbol hwrite)⟩
  | error failure =>
    rw [hwrite] at hrun
    cases failure with
    | storageConflict _ _ _ _ =>
      cases hrun
      exact ⟨hstore, hscope⟩
    | _ => cases hrun

theorem nested_persistOne
    (hnested : Extraction.Nested (fun _ ↦ FitsIn) (SourceFile.moduleName file.filePath) declared)
    {declaration : Declaration} (hdeclaration : declaration ∈ declared)
    {state next : PersistState} {store later : Store} (hstore : store.Nested)
    (hscope : ScopeHolds file declared state.scope store)
    (hrun : persistOne (storeSink file) declaration state store = (.ok next, later)) :
    later.Nested ∧ ScopeHolds file declared next.scope later := by
  unfold persistOne at hrun
  split at hrun
  · rename_i hlink
    have hplace := mayHold_of_root hnested hdeclaration hlink store
    exact nested_persistBelow hdeclaration hstore hscope hplace hrun
  · rename_i id hlink
    have hplace := mayHold_of_resolved hnested hdeclaration hscope hlink
    exact nested_persistBelow hdeclaration hstore hscope hplace hrun
  · cases hrun
    exact ⟨hstore, hscope⟩

/-- Offering declarations of a file, in any order, keeps the store nested. -/
theorem nested_persistFrom
    (hnested : Extraction.Nested (fun _ ↦ FitsIn) (SourceFile.moduleName file.filePath) declared)
    {offered : List Declaration} (hoffered : ∀ declaration ∈ offered, declaration ∈ declared)
    {state last : PersistState} {store later : Store} (hstore : store.Nested)
    (hscope : ScopeHolds file declared state.scope store)
    (hrun : persistFrom (storeSink file) offered state store = (.ok last, later)) :
    later.Nested ∧ ScopeHolds file declared last.scope later := by
  induction offered generalizing state store with
  | nil =>
    cases hrun
    exact ⟨hstore, hscope⟩
  | cons declaration rest ih =>
    unfold persistFrom at hrun
    split at hrun
    · rename_i next middle hone
      obtain ⟨hmiddle, hnext⟩ :=
        nested_persistOne hnested (hoffered declaration List.mem_cons_self) hstore hscope hone
      exact ih (fun other hother ↦ hoffered other (List.mem_cons_of_mem declaration hother)) hmiddle
        hnext hrun
    · cases hrun

/-- Storing what was read from a file keeps the store nested. -/
theorem nested_extraction (file : Store.FileScope) {read : Extraction}
    (hnested : Extraction.Nested (fun _ ↦ FitsIn) (SourceFile.moduleName file.filePath)
      read.declarations)
    {store later : Store} {stats : FileStats} (hstore : store.Nested)
    (hrun : (extraction file read).run store = .ok (stats, later)) : later.Nested := by
  obtain ⟨persisted, written, hdeclared, hrest⟩ := Store.run_bind_eq_ok_iff.mp hrun
  obtain ⟨_, imported, himports, hcalls⟩ := Store.run_bind_eq_ok_iff.mp hrest
  obtain ⟨counts, called, hcalled, hdone⟩ := Store.run_bind_eq_ok_iff.mp hcalls
  obtain ⟨-, rfl⟩ := Prod.mk.inj (Store.run_pure_eq_ok_iff.mp hdone)
  have hscope := scopeHolds_empty file read.declarations store
  obtain ⟨hwritten, -⟩ := nested_persistFrom hnested (fun _ hmem ↦ hmem) hstore hscope
    (declarations_run_eq_ok_iff.mp hdeclared)
  have himported := preserves_imports Store.isPreorder_sameSymbols
    (Store.sameSymbols_upsertImport file) _ _ _ _ himports
  have hcalled := preserves_calls Store.isPreorder_sameSymbols
    (Store.sameSymbols_insertCall file) _ _ _ _ _ hcalled
  exact (hwritten.of_sameSymbols himported).of_sameSymbols hcalled

/-- Storing a file keeps the store nested. -/
theorem nested_file (projectId : Int) (path source : String) :
    Store.Preserves Store.KeepsNested (Ingest.file projectId path source) := by
  intro store stats later hrun hstore
  obtain ⟨read, hread, hstored⟩ := file_run_eq_ok_iff.mp hrun
  exact nested_extraction ⟨projectId, path⟩ (SourceFile.nested_extract hread) hstore hstored

end Ingest

end SymbolGraph
