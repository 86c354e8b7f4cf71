import SymbolGraph.Proofs.Ingest.Nesting
import SymbolGraph.Proofs.Store.Answer
import SymbolGraph.Proofs.Store.Slice

/-!
# Storing what was read does not fail

The ids that tags were exchanged for are those of rows of the file (`ScopeStored`), so what a
declaration or a call refers to is always stored. In a known project a declaration is accepted or
conflicts (`persistBelow_of_taken`, `persistBelow_of_free`), and whatever was read from a file can
be stored (`exists_extraction_run`). In an unknown project nothing can be: the module comes first,
and it is refused (`extraction_run_of_unknown`).

For the same reason calls are written from symbols of their own file, and storing a file preserves
what such writes preserve (`preserves_file_of_keptByWritesTo`).
-/

set_option autoImplicit false
set_option relaxedAutoImplicit false

namespace SymbolGraph

open SymbolKind (FitsIn)

/-! ### Files declare their modules -/

namespace Extraction

theorem Extends.declarations_ne_nil {fits : String → SymbolKind → SymbolKind → Prop}
    {start last : Extraction} (hextends : Extends fits start last)
    (hstart : start.declarations ≠ []) : last.declarations ≠ [] := by
  obtain ⟨declaration, hmem⟩ := List.exists_mem_of_ne_nil _ hstart
  exact List.ne_nil_of_mem (hextends.mem hmem)

/-- The first of nested declarations is in no other. -/
theorem Nested.parent_head {fits : String → SymbolKind → SymbolKind → Prop} {moduleName : String}
    {first : Declaration} {rest : List Declaration}
    (hnested : Nested fits moduleName (first :: rest)) : first.parent = none := by
  rcases hnested.owner first List.mem_cons_self with ⟨hroot, -⟩ | ⟨owner, -, -, hlt, -⟩
  · exact hroot
  · have htag : first.tag = 0 := by
      have htags := hnested.tags
      rw [List.map_cons, List.length_cons, List.range_succ_eq_map] at htags
      exact (List.cons.inj htags).1
    omega

end Extraction

namespace SourceFile

/-- Every file declares its module. -/
theorem declarations_ne_nil {path source : String} {read : Extraction}
    (hread : extract path source = .ok read) : read.declarations ≠ [] := by
  obtain ⟨fits, hextends⟩ := exists_extends_extract hread
  exact hextends.declarations_ne_nil (List.cons_ne_nil _ _)

end SourceFile

/-- A row of a file is one of the symbols of the file. -/
theorem Store.HasRow.exists_mem_symbolsOf {store : Store} {file : FileScope} {id : Int}
    {kind : SymbolKind} (hrow : store.HasRow file id kind) :
    ∃ symbol ∈ store.symbolsOf file, symbol.id = id := by
  obtain ⟨symbol, hmem, hid, hproject, hfile, -⟩ := hrow
  refine ⟨symbol, Store.mem_symbolsOf_iff.mpr ⟨hmem, ?_⟩, hid⟩
  rw [Symbol.file, hproject, hfile]

namespace Ingest

open Store (Grows)

variable {file : Store.FileScope} {store later : Store}

/-! ### Tags and rows of the file -/

/-- The ids that tags were exchanged for are those of rows of the file. -/
def ScopeStored (file : Store.FileScope) (scope : IdentityScope) (store : Store) : Prop :=
  ∀ tag id, scope.resolve? tag = some id → ∃ kind, store.HasRow file id kind

theorem scopeStored_start (file : Store.FileScope) (store : Store) :
    ScopeStored file PersistState.start.scope store := by
  intro tag id hfound
  cases hfound

theorem ScopeStored.grows {scope : IdentityScope} (hscope : ScopeStored file scope store)
    (hgrows : store.Grows later) : ScopeStored file scope later := by
  intro tag id hfound
  obtain ⟨kind, hrow⟩ := hscope tag id hfound
  exact ⟨kind, hrow.grows hgrows⟩

theorem ScopeStored.record {scope : IdentityScope} (hscope : ScopeStored file scope store)
    {id : Int} {kind : SymbolKind} (hrow : store.HasRow file id kind) (tag : Nat) :
    ScopeStored file (scope.record tag id) store := by
  intro other otherId hfound
  rw [IdentityScope.resolve?_record] at hfound
  split at hfound
  · obtain rfl := Option.some.inj hfound
    exact ⟨kind, hrow⟩
  · exact hscope other otherId hfound

theorem ScopeStored.hasSymbol {scope : IdentityScope} (hscope : ScopeStored file scope store)
    {tag : Nat} {id : Int} (hfound : scope.resolve? tag = some id) :
    store.hasSymbol id = true := by
  obtain ⟨kind, symbol, hmem, hid, -⟩ := hscope tag id hfound
  exact Store.hasSymbol_eq_true_iff.mpr ⟨symbol, hmem, hid⟩

/-- Declarations are offered below rows of the file. -/
theorem ScopeStored.exists_mem_symbolsOf {scope : IdentityScope}
    (hscope : ScopeStored file scope store) {tag : Nat} {id : Int}
    (hfound : scope.resolve? tag = some id) : ∃ symbol ∈ store.symbolsOf file, symbol.id = id := by
  obtain ⟨kind, hrow⟩ := hscope tag id hfound
  exact hrow.exists_mem_symbolsOf

theorem ScopeStored.hasSymbol_of_place? {scope : IdentityScope}
    (hscope : ScopeStored file scope store) {parent : Option Nat} {parentId : Option Int}
    (hplace : scope.place? parent = some parentId) :
    ∀ id, parentId = some id → store.hasSymbol id = true := by
  rintro id rfl
  obtain ⟨tag, hfound⟩ := IdentityScope.exists_resolve?_of_place? hplace
  exact hscope.hasSymbol hfound

/-! ### Offering declarations to the store -/

/-- A declaration whose place is taken is accepted under the row, or it conflicts with it. -/
theorem persistBelow_of_taken {parentId : Option Int} {declaration : Declaration}
    {existing : Symbol} (hfound : store.symbols.find?
      (file.holdsSymbol (parentId.getD 0) declaration.name) = some existing)
    (state : PersistState) :
    persistBelow (storeSink file) parentId declaration state store =
      if existing.kind = declaration.kind then
        (.ok (state.accepted declaration.tag existing.id),
          store.amendSymbol file parentId declaration)
      else (.ok state.conflicted, store) := by
  unfold persistBelow storeSink Store.attempt
  rw [Store.upsertSymbol_run_of_taken hfound]
  by_cases hkind : existing.kind = declaration.kind
  · rw [if_pos hkind, if_pos hkind]
  · rw [if_neg hkind, if_neg hkind]

/-- A declaration whose place is free is accepted under a new row of a known project. -/
theorem persistBelow_of_free {parentId : Option Int} {declaration : Declaration}
    (hfree : store.symbols.find? (file.holdsSymbol (parentId.getD 0) declaration.name) = none)
    (hparent : ∀ parent, parentId = some parent → store.hasSymbol parent = true)
    (state : PersistState) :
    persistBelow (storeSink file) parentId declaration state store =
      if store.hasProject file.projectId then
        (.ok (state.accepted declaration.tag (Store.nextId (store.symbols.map (·.id)))),
          store.addSymbol file parentId declaration)
      else (.error .brokenReference, store) := by
  unfold persistBelow storeSink Store.attempt
  rw [Store.upsertSymbol_run_of_free hfree hparent]
  cases store.hasProject file.projectId with
  | false => rfl
  | true => rfl

theorem grows_storeSink (file : Store.FileScope) (parentId : Option Int)
    (declaration : Declaration) (store : Store) :
    store.Grows (storeSink file parentId declaration store).2 :=
  (Store.grows_upsertSymbol file parentId declaration).attempt
    Store.keptByWrites_grows.toIsPreorder store

theorem grows_of_persistBelow {parentId : Option Int} {declaration : Declaration}
    {state : PersistState} {answer : Except GraphError PersistState}
    (hrun : persistBelow (storeSink file) parentId declaration state store = (answer, later)) :
    store.Grows later := by
  have hoffered := grows_storeSink file parentId declaration store
  rwa [← snd_persistBelow (storeSink file) parentId declaration state store, hrun] at hoffered

/-- Offering a declaration keeps the tags with their rows. -/
theorem scopeStored_persistBelow {parentId : Option Int} {declaration : Declaration}
    {state next : PersistState} (hscope : ScopeStored file state.scope store)
    (hrun : persistBelow (storeSink file) parentId declaration state store = (.ok next, later)) :
    ScopeStored file next.scope later := by
  unfold persistBelow storeSink Store.attempt at hrun
  cases hwrite : (Store.upsertSymbol file parentId declaration).run store with
  | ok answer =>
    obtain ⟨id, written⟩ := answer
    rw [hwrite] at hrun
    cases hrun
    have hgrows := Store.grows_upsertSymbol file parentId declaration store _ _ hwrite
    exact (hscope.grows hgrows).record (Store.hasRow_upsertSymbol hwrite) declaration.tag
  | error failure =>
    rw [hwrite] at hrun
    cases failure with
    | storageConflict _ _ _ _ =>
      cases hrun
      exact hscope
    | _ => cases hrun

/-- Offering declarations keeps the tags with their rows. -/
theorem scopeStored_persistFrom {declared : List Declaration} {state last : PersistState}
    (hscope : ScopeStored file state.scope store)
    (hrun : persistFrom (storeSink file) declared state store = (.ok last, later)) :
    ScopeStored file last.scope later := by
  induction declared generalizing state store with
  | nil =>
    cases hrun
    exact hscope
  | cons declaration rest ih =>
    unfold persistFrom at hrun
    rw [persistOne_eq] at hrun
    cases hplace : state.scope.place? declaration.parent with
    | none =>
      rw [hplace] at hrun
      exact ih (show ScopeStored file state.orphaned.scope store from hscope) hrun
    | some parentId =>
      rw [hplace] at hrun
      dsimp only at hrun
      split at hrun
      · rename_i next middle hbelow
        exact ih (scopeStored_persistBelow hscope hbelow) hrun
      · cases hrun

/-- In a known project, a declaration below a stored parent is not refused. -/
theorem exists_persistBelow (hproject : store.hasProject file.projectId = true)
    {parentId : Option Int}
    (hparent : ∀ parent, parentId = some parent → store.hasSymbol parent = true)
    (declaration : Declaration) (state : PersistState) :
    ∃ next later, persistBelow (storeSink file) parentId declaration state store =
      (.ok next, later) := by
  cases hfound : store.symbols.find?
      (file.holdsSymbol (parentId.getD 0) declaration.name) with
  | none =>
    rw [persistBelow_of_free hfound hparent, hproject]
    exact ⟨_, _, rfl⟩
  | some existing =>
    rw [persistBelow_of_taken hfound]
    split
    · exact ⟨_, _, rfl⟩
    · exact ⟨_, _, rfl⟩

/-- In a known project, the declarations of a file are not refused. -/
theorem exists_persistFrom (hproject : store.hasProject file.projectId = true)
    (declared : List Declaration) {state : PersistState}
    (hscope : ScopeStored file state.scope store) :
    ∃ last later, persistFrom (storeSink file) declared state store = (.ok last, later) := by
  induction declared generalizing state store with
  | nil => exact ⟨state, store, rfl⟩
  | cons declaration rest ih =>
    unfold persistFrom
    rw [persistOne_eq]
    cases hplace : state.scope.place? declaration.parent with
    | none => exact ih hproject (show ScopeStored file state.orphaned.scope store from hscope)
    | some parentId =>
      obtain ⟨next, later, hbelow⟩ :=
        exists_persistBelow hproject (hscope.hasSymbol_of_place? hplace) declaration state
      have hgrows := grows_of_persistBelow hbelow
      dsimp only
      rw [hbelow]
      exact ih (hgrows.hasProject hproject) (scopeStored_persistBelow hscope hbelow)

/-! ### Storing what was read -/

theorem exists_imports_run (hproject : store.hasProject file.projectId = true)
    (mentions : List ImportMention) :
    ∃ later, (imports file mentions).run store = .ok ((), later) := by
  induction mentions generalizing store with
  | nil => exact ⟨store, rfl⟩
  | cons mention rest ih =>
    have hfirst : ∃ middle, (Store.upsertImport file mention).run store = .ok ((), middle) := by
      rw [Store.upsertImport_run, hproject]
      split
      · exact ⟨_, rfl⟩
      · exact ⟨_, rfl⟩
    obtain ⟨middle, hwrite⟩ := hfirst
    have hgrows := Store.grows_upsertImport file mention store _ _ hwrite
    obtain ⟨later, hrest⟩ := ih (hgrows.hasProject hproject)
    exact ⟨later, Store.run_bind_eq_ok_iff.mpr ⟨_, _, hwrite, hrest⟩⟩

theorem exists_calls_run (hproject : store.hasProject file.projectId = true)
    {scope : IdentityScope} (hscope : ScopeStored file scope store) (mentions : List CallMention) :
    ∃ counts later, (calls file scope mentions).run store = .ok (counts, later) := by
  induction mentions generalizing store with
  | nil => exact ⟨_, store, rfl⟩
  | cons mention rest ih =>
    unfold calls
    cases hcaller : scope.resolve? mention.caller with
    | none =>
      obtain ⟨counts, later, hrest⟩ := ih hproject hscope
      exact ⟨_, later, Store.run_bind_eq_ok_iff.mpr ⟨_, _, hrest, rfl⟩⟩
    | some callerId =>
      have hfirst : ∃ isNew middle, (Store.insertCall file callerId mention.callee
          mention.line).run store = .ok (isNew, middle) := by
        rw [Store.insertCall_run (hscope.hasSymbol hcaller), hproject]
        split
        · exact ⟨_, _, rfl⟩
        · exact ⟨_, _, rfl⟩
      obtain ⟨isNew, middle, hwrite⟩ := hfirst
      have hgrows := Store.grows_insertCall file callerId _ _ store _ _ hwrite
      obtain ⟨counts, later, hrest⟩ := ih (hgrows.hasProject hproject) (hscope.grows hgrows)
      exact ⟨_, later, Store.run_bind_eq_ok_iff.mpr ⟨_, _, hwrite,
        Store.run_bind_eq_ok_iff.mpr ⟨_, _, hrest, rfl⟩⟩⟩

/-! ### Calls come from symbols of the file -/

end Ingest

/-- A preorder that the writes to one file preserve, where calls come from symbols of the file. -/
structure Store.KeptByWritesTo (file : FileScope) (relation : Store → Store → Prop) : Prop extends
    IsPreorder relation where
  upsertSymbol : ∀ parentId declaration,
    Preserves relation (Store.upsertSymbol file parentId declaration)
  upsertImport : ∀ mention, Preserves relation (Store.upsertImport file mention)
  insertCall : ∀ {store later : Store} {callerId : Int} {callee : String} {line : Int}
    {isNew : Bool}, (∃ kind, store.HasRow file callerId kind) →
    (Store.insertCall file callerId callee line).run store = .ok (isNew, later) →
    relation store later

namespace Ingest

variable {file : Store.FileScope} {store later : Store} {relation : Store → Store → Prop}

theorem relates_calls (hrelation : Store.KeptByWritesTo file relation) {scope : IdentityScope}
    (hscope : ScopeStored file scope store) {mentions : List CallMention} {counts : CallCounts}
    (hrun : (calls file scope mentions).run store = .ok (counts, later)) :
    relation store later := by
  induction mentions generalizing store counts with
  | nil =>
    obtain ⟨-, rfl⟩ := Prod.mk.inj (Store.run_pure_eq_ok_iff.mp hrun)
    exact hrelation.refl _
  | cons mention rest ih =>
    unfold calls at hrun
    cases hcaller : scope.resolve? mention.caller with
    | none =>
      rw [hcaller] at hrun
      obtain ⟨others, _, hothers, hdone⟩ := Store.run_bind_eq_ok_iff.mp hrun
      obtain ⟨-, rfl⟩ := Prod.mk.inj (Store.run_pure_eq_ok_iff.mp hdone)
      exact ih hscope hothers
    | some callerId =>
      rw [hcaller] at hrun
      obtain ⟨isNew, middle, hfirst, hrest⟩ := Store.run_bind_eq_ok_iff.mp hrun
      obtain ⟨others, _, hothers, hdone⟩ := Store.run_bind_eq_ok_iff.mp hrest
      obtain ⟨-, rfl⟩ := Prod.mk.inj (Store.run_pure_eq_ok_iff.mp hdone)
      have hgrows := Store.grows_insertCall file callerId _ _ store _ _ hfirst
      exact hrelation.trans _ _ _ (hrelation.insertCall (hscope _ _ hcaller) hfirst)
        (ih (hscope.grows hgrows) hothers)

/-- Storing a file preserves what the writes to this file preserve. -/
theorem preserves_file_of_keptByWritesTo {projectId : Int} {path : String}
    (hrelation : Store.KeptByWritesTo ⟨projectId, path⟩ relation) (source : String) :
    Store.Preserves relation (Ingest.file projectId path source) := by
  intro store stats later hrun
  obtain ⟨read, -, hstored⟩ := file_run_eq_ok_iff.mp hrun
  obtain ⟨persisted, declared, hdeclared, hrest⟩ := Store.run_bind_eq_ok_iff.mp hstored
  obtain ⟨_, imported, himports, hrest⟩ := Store.run_bind_eq_ok_iff.mp hrest
  obtain ⟨counts, _, hcalls, hdone⟩ := Store.run_bind_eq_ok_iff.mp hrest
  obtain ⟨-, rfl⟩ := Prod.mk.inj (Store.run_pure_eq_ok_iff.mp hdone)
  have hpreorder := hrelation.toIsPreorder
  have hscope := scopeStored_persistFrom (scopeStored_start ⟨projectId, path⟩ store)
    (declarations_run_eq_ok_iff.mp hdeclared)
  have hgrows := preserves_imports Store.keptByWrites_grows.toIsPreorder
    (Store.grows_upsertImport _) _ _ _ _ himports
  have hfirst := preserves_declarations hpreorder hrelation.upsertSymbol _ _ _ _ hdeclared
  have hsecond := preserves_imports hpreorder hrelation.upsertImport _ _ _ _ himports
  have hthird := relates_calls hrelation (hscope.grows hgrows) hcalls
  exact hpreorder.trans _ _ _ (hpreorder.trans _ _ _ hfirst hsecond) hthird

/-! ### Files that can be stored -/

/-- In a known project, whatever was read from a file can be stored. -/
theorem exists_extraction_run (hproject : store.hasProject file.projectId = true)
    (read : Extraction) :
    ∃ stats later, (extraction file read).run store = .ok (stats, later) := by
  have hstart := scopeStored_start file store
  obtain ⟨persisted, declared, hpersisted⟩ :=
    exists_persistFrom hproject read.declarations hstart
  have hscope := scopeStored_persistFrom hstart hpersisted
  have hdeclared := declarations_run_eq_ok_iff.mpr hpersisted
  have hgrows := preserves_declarations Store.keptByWrites_grows.toIsPreorder
    (Store.grows_upsertSymbol file) _ _ _ _ hdeclared
  have hproject := hgrows.hasProject hproject
  obtain ⟨imported, himports⟩ := exists_imports_run hproject read.imports
  have hgrows := preserves_imports Store.keptByWrites_grows.toIsPreorder
    (Store.grows_upsertImport file) _ _ _ _ himports
  obtain ⟨counts, later, hcalls⟩ :=
    exists_calls_run (hgrows.hasProject hproject) (hscope.grows hgrows) read.calls
  exact ⟨_, later, Store.run_bind_eq_ok_iff.mpr ⟨_, _, hdeclared,
    Store.run_bind_eq_ok_iff.mpr ⟨_, _, himports,
      Store.run_bind_eq_ok_iff.mpr ⟨_, _, hcalls, rfl⟩⟩⟩⟩

/-- In an unknown project, nothing that was read from a file can be stored. -/
theorem extraction_run_of_unknown (hstore : store.WellFormed)
    (hunknown : store.hasProject file.projectId = false) {path source : String} {read : Extraction}
    (hread : SourceFile.extract path source = .ok read) :
    (extraction file read).run store = .error .brokenReference := by
  obtain ⟨first, rest, hdeclared⟩ := List.exists_cons_of_ne_nil
    (SourceFile.declarations_ne_nil hread)
  have hroot : first.parent = none := by
    have hnested := SourceFile.nested_extract hread
    rw [hdeclared] at hnested
    exact hnested.parent_head
  have hfree : store.symbols.find? (file.holdsSymbol 0 first.name) = none := by
    refine List.find?_eq_none.mpr fun symbol hsymbol hholds ↦ ?_
    have hkey := Store.FileScope.holdsSymbol_eq_true_iff.mp hholds
    have hproject := (hstore.anchoredSymbols symbol hsymbol).1
    rw [show symbol.projectId = file.projectId from congrArg Prod.fst hkey, hunknown] at hproject
    cases hproject
  have hrefused : persistFrom (storeSink file) read.declarations .start store =
      (.error .brokenReference, store) := by
    have hone : persistOne (storeSink file) first .start store =
        (.error .brokenReference, store) := by
      unfold persistOne
      rw [hroot]
      have hrefuses : persistBelow (storeSink file) none first .start store =
          if store.hasProject file.projectId then _ else (.error .brokenReference, store) :=
        persistBelow_of_free hfree (by simp) .start
      rw [hunknown] at hrefuses
      exact hrefuses
    rw [hdeclared]
    unfold persistFrom
    rw [hone]
  have hdeclarations : (declarations file read.declarations).run store =
      .error .brokenReference := by
    unfold declarations persist
    rw [StateT.run, hrefused]
  unfold extraction
  rw [StateT.run_bind, hdeclarations]
  rfl

end Ingest

end SymbolGraph
