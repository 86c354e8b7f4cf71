import SymbolGraph.Proofs.Ingest.Scope
import SymbolGraph.Proofs.Store.Renaming

/-!
# Storing a file is local

Storing a file changes the rows of this file alone (`changesOnly_file`), and it reads no others: in
two stores that have the same rows of the file up to a renaming of ids, it comes to the same
outcome, and to the same rows of the file up to this renaming (`mirrors_file`). What else is in the
stores matters only for the ids that new rows get.
-/

set_option autoImplicit false
set_option relaxedAutoImplicit false

namespace SymbolGraph

open Store (RunsAlike ChangesOnly Table)

namespace Ingest

variable {file : Store.FileScope} {store later : Store}

/-! ### Other files are left alone -/

theorem keptByWritesTo_changesOnly (file : Store.FileScope) :
    Store.KeptByWritesTo file (ChangesOnly file) where
  toIsPreorder := Store.isPreorder_changesOnly file
  upsertSymbol := Store.changesOnly_upsertSymbol file
  upsertImport := Store.changesOnly_upsertImport file
  insertCall := by
    rintro store later callerId callee line isNew ⟨kind, hrow⟩ hrun
    exact Store.changesOnly_insertCall hrow.exists_mem_symbolsOf hrun

/-- Storing a file changes the rows of this file alone. -/
theorem changesOnly_file (projectId : Int) (path source : String) :
    Store.Preserves (ChangesOnly ⟨projectId, path⟩) (Ingest.file projectId path source) :=
  preserves_file_of_keptByWritesTo (keptByWritesTo_changesOnly ⟨projectId, path⟩) source

/-! ### Other files are not read -/

/-- The other store has the same rows of the file up to a renaming, and new rows get the ids that
the renaming gives to those of this store. -/
structure Mirrors (rename : Renaming) (file : Store.FileScope) (store twin : Store) : Prop where
  hasProject : twin.hasProject file.projectId = store.hasProject file.projectId
  symbols : twin.symbolsOf file = (store.symbolsOf file).map rename.symbol
  imports : twin.importsOf file = (store.importsOf file).map rename.imported
  /-- The calls of the file's symbols, and of those that are yet to come. -/
  calls : ∀ id, (∃ symbol ∈ store.symbolsOf file, symbol.id = id) ∨ store.next .symbols ≤ id →
    twin.callsOf (rename .symbols id) = (store.callsOf id).map rename.call
  fresh : ∀ table id, store.next table ≤ id →
    rename table id = id + (twin.next table - store.next table)

end Ingest

/-- The tags with their ids renamed. -/
def IdentityScope.renamed (rename : Renaming) (scope : IdentityScope) : IdentityScope where
  ids := scope.ids.map fun entry ↦ (entry.1, rename .symbols entry.2)

/-- The state with its ids renamed. -/
def PersistState.renamed (rename : Renaming) (state : PersistState) : PersistState :=
  { state with scope := state.scope.renamed rename }

namespace IdentityScope

variable (rename : Renaming) (scope : IdentityScope)

theorem resolve?_renamed (tag : Nat) :
    (scope.renamed rename).resolve? tag = (scope.resolve? tag).map (rename .symbols) := by
  unfold resolve? renamed
  dsimp only
  induction scope.ids with
  | nil => rfl
  | cons entry rest ih =>
    rw [List.map_cons, List.lookup_cons, List.lookup_cons, ih]
    split
    · rfl
    · rfl

theorem renamed_record (tag : Nat) (id : Int) : (scope.record tag id).renamed rename =
    (scope.renamed rename).record tag (rename .symbols id) := by
  simp only [renamed, record, List.map_cons, List.filter_map, Function.comp_def]

theorem place?_renamed (parent : Option Nat) : (scope.renamed rename).place? parent =
    (scope.place? parent).map (Option.map (rename .symbols)) := by
  unfold place? parentLink
  cases parent with
  | none => rfl
  | some tag =>
    dsimp only
    rw [resolve?_renamed]
    cases scope.resolve? tag with
    | none => rfl
    | some id => rfl

end IdentityScope

theorem PersistState.renamed_accepted (rename : Renaming) (state : PersistState) (tag : Nat)
    (id : Int) : (state.accepted tag id).renamed rename =
      (state.renamed rename).accepted tag (rename .symbols id) := by
  unfold renamed accepted
  rw [IdentityScope.renamed_record]

namespace Ingest

open Store (FileScope RunsAlike)

section Places

variable {rename : Renaming} (hfaithful : rename.Faithful)
include hfaithful

theorem getD_map_rename (id : Option Int) :
    (id.map (rename .symbols)).getD 0 = rename .symbols (id.getD 0) := by
  cases id with
  | none => exact hfaithful.zero.symm
  | some value => rfl

/-- A renamed symbol holds the renamed place. -/
theorem holdsSymbol_renamed (file : FileScope) (parentId : Option Int) (name : String)
    (symbol : Symbol) :
    file.holdsSymbol ((parentId.map (rename .symbols)).getD 0) name (rename.symbol symbol) =
      file.holdsSymbol (parentId.getD 0) name symbol := by
  rw [getD_map_rename hfaithful]
  unfold FileScope.holdsSymbol
  rw [show (rename.symbol symbol).parentKey = rename .symbols symbol.parentKey from rfl,
    (hfaithful.injective .symbols).beq_eq]
  rfl

/-- A renamed call is the call from the renamed caller. -/
theorem holdsCall_renamed (file : FileScope) (callerId : Int) (callee : String) (line : Int)
    (call : Call) : file.holdsCall (rename .symbols callerId) callee line (rename.call call) =
      file.holdsCall callerId callee line call := by
  unfold FileScope.holdsCall
  rw [show (rename.call call).callerId = rename .symbols call.callerId from rfl,
    (hfaithful.injective .symbols).beq_eq]
  rfl

/-- A renamed new symbol is a new symbol of the renamed id below the renamed parent. -/
theorem symbol_newSymbol (file : FileScope) (id : Int) (parentId : Option Int)
    (declaration : Declaration) : rename.symbol (file.newSymbol id parentId declaration) =
      file.newSymbol (rename .symbols id) (parentId.map (rename .symbols)) declaration := by
  unfold Renaming.symbol FileScope.newSymbol
  rw [getD_map_rename hfaithful]

end Places

namespace Mirrors

variable {rename : Renaming} {file : FileScope} {store twin : Store}

/-- The next rows of both stores get corresponding ids. -/
theorem rename_next (hmirrors : Mirrors rename file store twin) (table : Table) :
    rename table (store.next table) = twin.next table := by
  have hfresh := hmirrors.fresh table _ (Int.le_refl _)
  omega

/-! ### Declarations -/

section Declarations

variable (hmirrors : Mirrors rename file store twin) (hfaithful : rename.Faithful)
include hmirrors hfaithful

/-- A place is taken by the renamed row. -/
theorem find?_symbols (parentId : Option Int) (name : String) :
    twin.symbols.find? (file.holdsSymbol ((parentId.map (rename .symbols)).getD 0) name) =
      (store.symbols.find? (file.holdsSymbol (parentId.getD 0) name)).map rename.symbol := by
  rw [← Store.find?_symbolsOf, ← Store.find?_symbolsOf, hmirrors.symbols]
  refine Store.find?_map_of_forall ?_ (store.symbolsOf file)
  exact fun symbol ↦ holdsSymbol_renamed hfaithful file parentId name symbol

/-- Rows that are found are overwritten in both stores. -/
theorem amendSymbol (parentId : Option Int) (declaration : Declaration) :
    Mirrors rename file (store.amendSymbol file parentId declaration)
      (twin.amendSymbol file (parentId.map (rename .symbols)) declaration) := by
  refine ⟨hmirrors.hasProject, ?_, hmirrors.imports, ?_, ?_⟩
  · rw [Store.symbolsOf_amendSymbol, Store.symbolsOf_amendSymbol, hmirrors.symbols]
    refine Store.amendWhere_map ?_ ?_ (store.symbolsOf file)
    · exact fun symbol ↦ holdsSymbol_renamed hfaithful file parentId declaration.name symbol
    · exact fun symbol ↦ rfl
  · intro id hid
    rw [Store.next_amendSymbol] at hid
    refine hmirrors.calls id (hid.imp_left ?_)
    rintro ⟨symbol, hsymbol, rfl⟩
    exact Store.exists_mem_of_mem_amendSymbol _ _ _ _ hsymbol
  · intro table id hid
    rw [Store.next_amendSymbol] at hid
    rw [Store.next_amendSymbol, Store.next_amendSymbol]
    exact hmirrors.fresh table id hid

/-- A row is added to both stores. -/
theorem addSymbol (parentId : Option Int) (declaration : Declaration) :
    Mirrors rename file (store.addSymbol file parentId declaration)
      (twin.addSymbol file (parentId.map (rename .symbols)) declaration) := by
  refine ⟨hmirrors.hasProject, ?_, hmirrors.imports, ?_, ?_⟩
  · rw [Store.symbolsOf_addSymbol, Store.symbolsOf_addSymbol, hmirrors.symbols, List.map_append,
      List.map_singleton, symbol_newSymbol hfaithful, hmirrors.rename_next]
  · intro id hid
    refine hmirrors.calls id ?_
    rw [Store.symbolsOf_addSymbol, Store.next_addSymbol] at hid
    rcases hid with ⟨symbol, hsymbol, rfl⟩ | hlater
    · rcases List.mem_append.mp hsymbol with hold | hadded
      · exact Or.inl ⟨symbol, hold, rfl⟩
      · -- the new symbol was yet to come
        obtain rfl := List.mem_singleton.mp hadded
        exact Or.inr (Int.le_refl _)
    · exact Or.inr (by omega)
  · intro table id hid
    cases table with
    | symbols =>
      rw [Store.next_addSymbol] at hid
      rw [Store.next_addSymbol, Store.next_addSymbol]
      have hfresh := hmirrors.fresh .symbols id (by omega)
      omega
    | imports => exact hmirrors.fresh .imports id hid
    | calls => exact hmirrors.fresh .calls id hid

omit hfaithful in
/-- A symbol of the file is stored in both stores. -/
theorem hasSymbol {id : Int} (hsymbol : ∃ symbol ∈ store.symbolsOf file, symbol.id = id) :
    store.hasSymbol id = true ∧ twin.hasSymbol (rename .symbols id) = true := by
  obtain ⟨symbol, hmem, rfl⟩ := hsymbol
  have himage : rename.symbol symbol ∈ twin.symbolsOf file := by
    rw [hmirrors.symbols]
    exact List.mem_map_of_mem hmem
  exact ⟨Store.hasSymbol_eq_true_iff.mpr ⟨symbol, (Store.mem_symbolsOf_iff.mp hmem).1, rfl⟩,
    Store.hasSymbol_eq_true_iff.mpr ⟨_, (Store.mem_symbolsOf_iff.mp himage).1, rfl⟩⟩

/-- A declaration that is offered to both stores comes to the same. -/
theorem persistBelow {parentId : Option Int}
    (hparent : ∀ parent, parentId = some parent →
      ∃ symbol ∈ store.symbolsOf file, symbol.id = parent)
    (declaration : Declaration) (state : PersistState) :
    let answer := persistBelow (storeSink file) parentId declaration state store
    let image := SymbolGraph.persistBelow (storeSink file) (parentId.map (rename .symbols))
      declaration (state.renamed rename) twin
    image.1 = answer.1.map (PersistState.renamed rename) ∧
      Mirrors rename file answer.2 image.2 := by
  intro answer image
  have hfind := hmirrors.find?_symbols hfaithful parentId declaration.name
  cases hfound : store.symbols.find? (file.holdsSymbol (parentId.getD 0) declaration.name) with
  | some existing =>
    rw [hfound] at hfind
    have hleft : answer = _ := persistBelow_of_taken hfound state
    have hright : image = _ := persistBelow_of_taken hfind (state.renamed rename)
    by_cases hkind : existing.kind = declaration.kind
    · rw [if_pos hkind] at hleft
      rw [if_pos (show (rename.symbol existing).kind = declaration.kind from hkind)] at hright
      rw [hleft, hright]
      exact ⟨congrArg Except.ok (state.renamed_accepted rename _ _).symm,
        hmirrors.amendSymbol hfaithful parentId declaration⟩
    · rw [if_neg hkind] at hleft
      rw [if_neg (show ¬(rename.symbol existing).kind = declaration.kind from hkind)] at hright
      rw [hleft, hright]
      exact ⟨rfl, hmirrors⟩
  | none =>
    rw [hfound] at hfind
    have hleft : answer = _ := persistBelow_of_free hfound
      (fun parent hsome ↦ (hmirrors.hasSymbol (hparent parent hsome)).1) state
    have hright : image = _ := persistBelow_of_free hfind
      (fun parent hsome ↦ by
        obtain ⟨before, hbefore, rfl⟩ := Option.map_eq_some_iff.mp hsome
        exact (hmirrors.hasSymbol (hparent before hbefore)).2) (state.renamed rename)
    rw [hmirrors.hasProject] at hright
    cases hproject : store.hasProject file.projectId with
    | false =>
      rw [hproject] at hleft hright
      rw [hleft, hright]
      exact ⟨rfl, hmirrors⟩
    | true =>
      rw [hproject, if_pos rfl] at hleft hright
      rw [hleft, hright]
      refine ⟨congrArg Except.ok ?_, hmirrors.addSymbol hfaithful parentId declaration⟩
      change (state.renamed rename).accepted declaration.tag (twin.next .symbols) =
        (state.accepted declaration.tag (store.next .symbols)).renamed rename
      rw [state.renamed_accepted, hmirrors.rename_next]

/-- Declarations that are offered to both stores come to the same. -/
theorem persistFrom (declared : List Declaration) {state : PersistState}
    (hscope : ScopeStored file state.scope store) :
    let answer := persistFrom (storeSink file) declared state store
    let image := SymbolGraph.persistFrom (storeSink file) declared (state.renamed rename) twin
    image.1 = answer.1.map (PersistState.renamed rename) ∧
      Mirrors rename file answer.2 image.2 := by
  induction declared generalizing state store twin with
  | nil => exact ⟨rfl, hmirrors⟩
  | cons declaration rest ih =>
    unfold SymbolGraph.persistFrom
    rw [persistOne_eq, persistOne_eq]
    have hplaces : (state.renamed rename).scope.place? declaration.parent = _ :=
      state.scope.place?_renamed rename declaration.parent
    cases hplace : state.scope.place? declaration.parent with
    | none =>
      rw [hplace] at hplaces
      rw [hplaces]
      exact ih hmirrors (show ScopeStored file state.orphaned.scope store from hscope)
    | some parentId =>
      rw [hplace] at hplaces
      rw [hplaces]
      dsimp only [Option.map_some]
      have hparent : ∀ parent, parentId = some parent →
          ∃ symbol ∈ store.symbolsOf file, symbol.id = parent := by
        rintro parent rfl
        obtain ⟨tag, hfound⟩ := IdentityScope.exists_resolve?_of_place? hplace
        exact hscope.exists_mem_symbolsOf hfound
      obtain ⟨hanswer, hlater⟩ := hmirrors.persistBelow hfaithful hparent declaration state
      cases hbelow : SymbolGraph.persistBelow (storeSink file) parentId declaration state store with
      | mk answer later =>
        rw [hbelow] at hanswer hlater
        cases himage : SymbolGraph.persistBelow (storeSink file)
            (parentId.map (rename .symbols)) declaration (state.renamed rename) twin with
        | mk image laterTwin =>
          rw [himage] at hanswer hlater
          obtain rfl : image = answer.map (PersistState.renamed rename) := hanswer
          cases answer with
          | error failure => exact ⟨rfl, hlater⟩
          | ok next => exact ih hlater (scopeStored_persistBelow hscope hbelow)

end Declarations

end Mirrors

namespace Mirrors

variable {rename : Renaming} {file : FileScope} {store twin : Store}
  (hmirrors : Mirrors rename file store twin)
include hmirrors

/-! ### Imports and calls -/

theorem any_imports (source name : String) :
    twin.imports.any (file.holdsImport source name) =
      store.imports.any (file.holdsImport source name) := by
  rw [← Store.any_importsOf, ← Store.any_importsOf, hmirrors.imports, List.any_map]
  rfl

theorem amendImport (mention : ImportMention) :
    Mirrors rename file (store.amendImport file mention) (twin.amendImport file mention) := by
  refine ⟨hmirrors.hasProject, hmirrors.symbols, ?_, hmirrors.calls, ?_⟩
  · rw [Store.importsOf_amendImport, Store.importsOf_amendImport, hmirrors.imports]
    refine Store.amendWhere_map ?_ ?_ (store.importsOf file)
    · exact fun entry ↦ rfl
    · exact fun entry ↦ rfl
  · intro table id hid
    rw [Store.next_amendImport] at hid
    rw [Store.next_amendImport, Store.next_amendImport]
    exact hmirrors.fresh table id hid

theorem addImport (mention : ImportMention) :
    Mirrors rename file (store.addImport file mention) (twin.addImport file mention) := by
  refine ⟨hmirrors.hasProject, hmirrors.symbols, ?_, hmirrors.calls, ?_⟩
  · rw [Store.importsOf_addImport, Store.importsOf_addImport, hmirrors.imports, List.map_append,
      ← hmirrors.rename_next]
    rfl
  · intro table id hid
    cases table with
    | symbols => exact hmirrors.fresh .symbols id hid
    | imports =>
      rw [Store.next_addImport] at hid
      rw [Store.next_addImport, Store.next_addImport]
      have hfresh := hmirrors.fresh .imports id (by omega)
      omega
    | calls => exact hmirrors.fresh .calls id hid

section Calls

variable (hfaithful : rename.Faithful) {callerId : Int}
  (hcaller : ∃ symbol ∈ store.symbolsOf file, symbol.id = callerId)
include hfaithful hcaller

theorem any_calls (callee : String) (line : Int) :
    twin.calls.any (file.holdsCall (rename .symbols callerId) callee line) =
      store.calls.any (file.holdsCall callerId callee line) := by
  rw [← Store.any_callsOf, ← Store.any_callsOf, hmirrors.calls callerId (Or.inl hcaller),
    List.any_map]
  exact congrArg (fun test ↦ (store.callsOf callerId).any test)
    (funext fun call ↦ holdsCall_renamed hfaithful file callerId callee line call)

theorem addCall (callee : String) (line : Int) :
    Mirrors rename file (store.addCall file callerId callee line)
      (twin.addCall file (rename .symbols callerId) callee line) := by
  refine ⟨hmirrors.hasProject, hmirrors.symbols, hmirrors.imports, ?_, ?_⟩
  · intro id hid
    by_cases hsame : callerId = id
    · subst hsame
      rw [Store.callsOf_addCall, Store.callsOf_addCall, hmirrors.calls callerId hid,
        List.map_append, ← hmirrors.rename_next]
      rfl
    · have hother : rename .symbols callerId ≠ rename .symbols id := fun heq ↦
        hsame (hfaithful.injective .symbols heq)
      rw [Store.callsOf_addCall_of_ne _ _ _ _ _ hsame,
        Store.callsOf_addCall_of_ne _ _ _ _ _ hother]
      exact hmirrors.calls id hid
  · intro table id hid
    cases table with
    | symbols => exact hmirrors.fresh .symbols id hid
    | imports => exact hmirrors.fresh .imports id hid
    | calls =>
      rw [Store.next_addCall] at hid
      rw [Store.next_addCall, Store.next_addCall]
      have hfresh := hmirrors.fresh .calls id (by omega)
      omega

end Calls

end Mirrors

/-! ### Whole files -/

/-- The stores correspond, and the ids that tags were exchanged for are those of rows of the
file. -/
structure MirrorsIn (rename : Renaming) (file : FileScope) (scope : IdentityScope)
    (store twin : Store) : Prop extends Mirrors rename file store twin where
  scopeStored : ScopeStored file scope store

section Files

variable {rename : Renaming} {file : FileScope} {scope : IdentityScope}

theorem runsAlike_declarations (hfaithful : rename.Faithful) (declared : List Declaration) :
    RunsAlike (Mirrors rename file) (declarations file declared) (declarations file declared)
      fun state image later laterTwin ↦
        image = state.renamed rename ∧ MirrorsIn rename file state.scope later laterTwin := by
  intro store twin hmirrors
  have hstart := scopeStored_start file store
  obtain ⟨hanswer, hlater⟩ := hmirrors.persistFrom hfaithful declared hstart
  unfold declarations persist StateT.run
  change (persistFrom (storeSink file) declared .start twin).1 = _ at hanswer
  rcases hrun : persistFrom (storeSink file) declared .start store with ⟨answer, later⟩
  rcases himage : persistFrom (storeSink file) declared .start twin with ⟨image, laterTwin⟩
  dsimp only
  rw [hrun, himage]
  rw [hrun, himage] at hanswer
  obtain rfl : image = answer.map (PersistState.renamed rename) := hanswer
  cases answer with
  | error failure => rfl
  | ok state =>
    have hscope := scopeStored_persistFrom hstart hrun
    rw [hrun, show persistFrom (storeSink file) declared
      (PersistState.start.renamed rename) twin = _ from himage] at hlater
    exact ⟨rfl, hlater, hscope⟩

theorem runsAlike_upsertImport (mention : ImportMention) :
    RunsAlike (MirrorsIn rename file scope) (Store.upsertImport file mention)
      (Store.upsertImport file mention) fun _ _ ↦ MirrorsIn rename file scope := by
  intro store twin hmirrors
  rw [Store.upsertImport_run, Store.upsertImport_run, hmirrors.any_imports, hmirrors.hasProject]
  by_cases htaken : store.imports.any (file.holdsImport mention.source mention.name) = true
  · rw [if_pos htaken, if_pos htaken]
    exact ⟨hmirrors.amendImport mention, hmirrors.scopeStored⟩
  · rw [if_neg htaken, if_neg htaken]
    cases store.hasProject file.projectId with
    | false => rfl
    | true => exact ⟨hmirrors.addImport mention, hmirrors.scopeStored⟩

theorem runsAlike_imports (mentions : List ImportMention) :
    RunsAlike (MirrorsIn rename file scope) (imports file mentions) (imports file mentions)
      fun _ _ ↦ MirrorsIn rename file scope := by
  induction mentions with
  | nil => exact .pure fun _ _ hmirrors ↦ hmirrors
  | cons mention rest ih => exact .bind (runsAlike_upsertImport mention) fun _ _ ↦ ih

theorem runsAlike_insertCall (hfaithful : rename.Faithful) {tag : Nat} {callerId : Int}
    (hfound : scope.resolve? tag = some callerId) (callee : String) (line : Int) :
    RunsAlike (MirrorsIn rename file scope) (Store.insertCall file callerId callee line)
      (Store.insertCall file (rename .symbols callerId) callee line)
      fun isNew image later laterTwin ↦
        isNew = image ∧ MirrorsIn rename file scope later laterTwin := by
  intro store twin hmirrors
  have hcaller := hmirrors.scopeStored.exists_mem_symbolsOf hfound
  obtain ⟨hstored, himage⟩ := hmirrors.hasSymbol hcaller
  rw [Store.insertCall_run hstored, Store.insertCall_run himage,
    hmirrors.any_calls hfaithful hcaller, hmirrors.hasProject]
  by_cases htaken : store.calls.any (file.holdsCall callerId callee line) = true
  · rw [if_pos htaken, if_pos htaken]
    exact ⟨rfl, hmirrors⟩
  · rw [if_neg htaken, if_neg htaken]
    cases store.hasProject file.projectId with
    | false => rfl
    | true =>
      exact ⟨rfl, hmirrors.addCall hfaithful hcaller callee line, hmirrors.scopeStored⟩

theorem runsAlike_calls (hfaithful : rename.Faithful) (mentions : List CallMention) :
    RunsAlike (MirrorsIn rename file scope) (calls file scope mentions)
      (calls file (scope.renamed rename) mentions)
      fun counts image later laterTwin ↦
        counts = image ∧ MirrorsIn rename file scope later laterTwin := by
  induction mentions with
  | nil => exact .pure fun _ _ hmirrors ↦ ⟨rfl, hmirrors⟩
  | cons mention rest ih =>
    unfold calls
    rw [IdentityScope.resolve?_renamed]
    cases hcaller : scope.resolve? mention.caller with
    | none =>
      refine .bind ih fun counts image ↦ .pure ?_
      rintro later laterTwin ⟨rfl, hmirrors⟩
      exact ⟨rfl, hmirrors⟩
    | some callerId =>
      refine .bind (runsAlike_insertCall hfaithful hcaller _ _) fun isNew image ↦ ?_
      rintro store twin ⟨rfl, hmirrors⟩
      refine RunsAlike.bind ih (fun counts image ↦ .pure ?_) store twin hmirrors
      rintro later laterTwin ⟨rfl, hmirrors⟩
      exact ⟨rfl, hmirrors⟩

theorem runsAlike_extraction (hfaithful : rename.Faithful) (read : Extraction) :
    RunsAlike (Mirrors rename file) (extraction file read) (extraction file read)
      fun stats image later laterTwin ↦ stats = image ∧ Mirrors rename file later laterTwin := by
  refine .bind (runsAlike_declarations hfaithful read.declarations) fun persisted image ↦ ?_
  rintro store twin ⟨rfl, hmirrors⟩
  refine RunsAlike.bind (runsAlike_imports read.imports) (fun _ _ ↦ ?_) store twin hmirrors
  refine .bind (runsAlike_calls hfaithful read.calls) fun counts image ↦ .pure ?_
  rintro later laterTwin ⟨rfl, hmirrors⟩
  exact ⟨rfl, hmirrors.toMirrors⟩

end Files

/-- Storing a file comes to the same in stores that have the same rows of the file up to a
renaming. -/
theorem mirrors_file {rename : Renaming} (hfaithful : rename.Faithful) {projectId : Int}
    {path : String} {store twin : Store} (hmirrors : Mirrors rename ⟨projectId, path⟩ store twin)
    (source : String) :
    let answer := Store.attempt (Ingest.file projectId path source) store
    let image := Store.attempt (Ingest.file projectId path source) twin
    answer.1 = image.1 ∧ Mirrors rename ⟨projectId, path⟩ answer.2 image.2 := by
  refine RunsAlike.attempt ?_ hmirrors
  intro store twin hmirrors
  cases hread : SourceFile.extract path source with
  | error failure =>
    rw [file_run_of_unreadable hread, file_run_of_unreadable hread]
  | ok read =>
    rw [file_run_of_read hread, file_run_of_read hread]
    exact runsAlike_extraction hfaithful read store twin hmirrors

end Ingest

end SymbolGraph
