import SymbolGraph.Proofs.Resolution.Link
import SymbolGraph.Proofs.Store.Renaming

/-!
# Linking a renamed store

What a name means does not depend on the ids of the rows, as long as the rows of one file have their
ids in the same order. In a store with renamed ids an import stands for the renamed symbol
(`importSymbol_imported`), a call reaches the renamed one (`callSymbol_call`), and linking the store
gives the renamed store with the same counts (`Corresponds.linked`, `Corresponds.linkStats_eq`).
-/

set_option autoImplicit false
set_option relaxedAutoImplicit false

namespace SymbolGraph

/-! ### Names inside a renamed file -/

/-- The view with its ids renamed. -/
def FileView.renamed (rename : Renaming) (file : FileView) : FileView where
  symbols := file.symbols.map rename.symbol
  imports := file.imports.map rename.imported

namespace FileView

variable {rename : Renaming} (hfaithful : rename.Faithful) (file : FileView)

theorem find?_symbols_renamed {test image : Symbol → Bool}
    (hsame : ∀ symbol, image (rename.symbol symbol) = test symbol) :
    (file.renamed rename).symbols.find? image =
      (file.symbols.find? test).map rename.symbol :=
  Store.find?_map_of_forall hsame file.symbols

theorem map_id_map_symbol (found : Option Symbol) :
    (found.map rename.symbol).map (·.id) = (found.map (·.id)).map (rename .symbols) := by
  rw [Option.map_map, Option.map_map]
  rfl

theorem moduleId?_renamed :
    (file.renamed rename).moduleId? = file.moduleId?.map (rename .symbols) := by
  unfold moduleId?
  rw [find?_symbols_renamed, map_id_map_symbol]
  intro symbol
  change ((symbol.parentId.map (rename .symbols)).isNone && _) = _
  rw [Option.isNone_map]
  rfl

theorem resolvedImport_renamed (name : String) :
    (file.renamed rename).resolvedImport name =
      (file.resolvedImport name).map (rename .symbols) := by
  have hfound : (file.renamed rename).imports.find?
      (fun entry ↦ entry.isResolved && entry.localName == name) =
        (file.imports.find? fun entry ↦ entry.isResolved && entry.localName == name).map
          rename.imported := by
    refine Store.find?_map_of_forall ?_ file.imports
    exact fun entry ↦ rfl
  unfold resolvedImport
  rw [hfound, Option.bind_map, Option.map_bind]
  rfl

section Faithful

include hfaithful

theorem symbol?_renamed (id : Int) : (file.renamed rename).symbol? (rename .symbols id) =
    (file.symbol? id).map rename.symbol :=
  file.find?_symbols_renamed fun _ ↦ (hfaithful.injective .symbols).beq_eq

theorem isTopLevel_renamed (symbol : Symbol) :
    (file.renamed rename).isTopLevel (rename.symbol symbol) = file.isTopLevel symbol := by
  unfold isTopLevel
  rw [moduleId?_renamed, show (rename.symbol symbol).parentId =
      symbol.parentId.map (rename .symbols) from rfl, Option.isNone_map,
    (Option.map_injective (hfaithful.injective .symbols)).beq_eq]

theorem find?_isTopLevel_renamed (name : String) :
    (file.renamed rename).symbols.find?
        (fun symbol ↦ isNamed name symbol && (file.renamed rename).isTopLevel symbol) =
      (file.symbols.find? fun symbol ↦ isNamed name symbol && file.isTopLevel symbol).map
        rename.symbol := by
  refine file.find?_symbols_renamed fun symbol ↦ ?_
  rw [file.isTopLevel_renamed hfaithful]
  rfl

theorem bestNamed_renamed (name : String) :
    (file.renamed rename).bestNamed name = (file.bestNamed name).map rename.symbol := by
  unfold bestNamed
  rw [file.find?_isTopLevel_renamed hfaithful, Option.map_or]
  refine congrArg _ (file.find?_symbols_renamed ?_)
  exact fun symbol ↦ rfl

theorem childNamed_renamed (parentId : Int) (name : String) :
    (file.renamed rename).childNamed (rename .symbols parentId) name =
      (file.childNamed parentId name).map rename.symbol := by
  refine file.find?_symbols_renamed fun symbol ↦ ?_
  have hparent : (symbol.parentId.map (rename .symbols) == some (rename .symbols parentId)) =
      (symbol.parentId == some parentId) :=
    (Option.map_injective (hfaithful.injective .symbols)).beq_eq (b := some parentId)
  exact congrArg (· && symbol.name == name) hparent

theorem chain_renamed (levels : Nat) (start : Option Symbol) :
    (file.renamed rename).chain levels (start.map rename.symbol) =
      (file.chain levels start).map rename.symbol := by
  induction levels generalizing start with
  | zero => rfl
  | succ levels ih =>
    cases start with
    | none => rfl
    | some symbol =>
      have haround : (rename.symbol symbol).parentId.bind (file.renamed rename).symbol? =
          (symbol.parentId.bind file.symbol?).map rename.symbol := by
        change (symbol.parentId.map (rename .symbols)).bind _ = _
        rw [Option.bind_map, Option.map_bind]
        exact congrArg symbol.parentId.bind (funext fun id ↦ file.symbol?_renamed hfaithful id)
      rw [Option.map_some, chain, chain, List.map_cons, haround, ih]

theorem enclosing_renamed (id : Int) :
    (file.renamed rename).enclosing (rename .symbols id) =
      (file.enclosing id).map rename.symbol := by
  unfold enclosing
  rw [file.symbol?_renamed hfaithful, file.chain_renamed hfaithful,
    show (file.renamed rename).symbols.length = file.symbols.length from List.length_map _]

theorem enclosingClass_renamed (id : Int) :
    (file.renamed rename).enclosingClass (rename .symbols id) =
      (file.enclosingClass id).map rename.symbol := by
  unfold enclosingClass
  rw [file.enclosing_renamed hfaithful]
  refine Store.find?_map_of_forall ?_ (file.enclosing id)
  exact fun symbol ↦ rfl

theorem scopedNamed_renamed (name : String) (sourceId : Int) :
    (file.renamed rename).scopedNamed name (rename .symbols sourceId) =
      (file.scopedNamed name sourceId).map rename.symbol := by
  unfold scopedNamed
  rw [file.find?_isTopLevel_renamed hfaithful, file.enclosing_renamed hfaithful, Option.map_or,
    List.findSome?_map, List.map_findSome?]
  refine congrArg (Option.or · _) (congrArg (List.findSome? · _) (funext fun symbol ↦ ?_))
  rw [Function.comp_apply, Function.comp_apply,
    show opensScope (rename.symbol symbol) = opensScope symbol from rfl]
  cases opensScope symbol with
  | false => rfl
  | true => exact file.childNamed_renamed hfaithful symbol.id name

end Faithful

end FileView

/-! ### Names inside a renamed store -/

namespace Renaming

/-- The ids of the symbols of one file come in the same order, and those of its imports. -/
structure KeepsOrder (rename : Renaming) (store : Store) : Prop where
  symbolOrder : ∀ left ∈ store.symbols, ∀ right ∈ store.symbols, left.file = right.file →
    compare (rename .symbols left.id) (rename .symbols right.id) = compare left.id right.id
  importOrder : ∀ left ∈ store.imports, ∀ right ∈ store.imports, left.file = right.file →
    compare (rename .imports left.id) (rename .imports right.id) = compare left.id right.id

/-- Rows of an ascending list that also ascend by their new ids compare by these as they did. -/
theorem compare_eq_of_ascending {α : Type} {id newId : α → Int} {rows : List α}
    (hids : rows.Pairwise fun left right ↦ id left < id right)
    (hnewIds : rows.Pairwise fun left right ↦ newId left < newId right) :
    ∀ left ∈ rows, ∀ right ∈ rows,
      compare (newId left) (newId right) = compare (id left) (id right) := by
  refine List.Pairwise.forall_of_forall_of_flip ?_ ?_ ?_
  · exact fun row _ ↦ Std.ReflCmp.compare_self.trans Std.ReflCmp.compare_self.symm
  · refine hids.imp₂ (fun left right hlt hnewLt ↦ ?_) hnewIds
    exact (Int.compare_eq_lt.mpr hnewLt).trans (Int.compare_eq_lt.mpr hlt).symm
  · refine hids.imp₂ (fun left right hlt hnewLt ↦ ?_) hnewIds
    exact (Int.compare_eq_gt.mpr hnewLt).trans (Int.compare_eq_gt.mpr hlt).symm

end Renaming

/-- The other store is this one with its ids renamed and its rows in any order, but those of one
file in the same order. -/
structure Store.Corresponds (rename : Renaming) (store other : Store) : Prop extends
    store.IsRenamed rename other, rename.Faithful, rename.KeepsOrder store where
  wellFormed : store.WellFormed
  otherWellFormed : other.WellFormed

/-- Stores that are the same file by file have the rows of each file in the same order. -/
theorem Store.Matches.corresponds {rename : Renaming} {store other : Store}
    (hmatches : store.Matches rename other) (hfaithful : rename.Faithful)
    (hstore : store.WellFormed) (hother : other.WellFormed) :
    store.Corresponds rename other where
  toIsRenamed := hmatches.isRenamed hfaithful hstore hother
  toFaithful := hfaithful
  symbolOrder := by
    intro left hleft right hright hfile
    have hrenamed := hother.symbols.pairwise_filter fun symbol ↦ symbol.file = right.file
    rw [show other.symbols.filter _ = _ from hmatches.symbols right.file, List.pairwise_map]
      at hrenamed
    exact Renaming.compare_eq_of_ascending
      (hstore.symbols.pairwise_filter fun symbol ↦ symbol.file = right.file) hrenamed
      left (mem_symbolsOf_iff.mpr ⟨hleft, hfile⟩) right (mem_symbolsOf_iff.mpr ⟨hright, rfl⟩)
  importOrder := by
    intro left hleft right hright hfile
    have hrenamed := hother.imports.pairwise_filter fun entry ↦ entry.file = right.file
    rw [show other.imports.filter _ = _ from hmatches.imports right.file, List.pairwise_map]
      at hrenamed
    exact Renaming.compare_eq_of_ascending
      (hstore.imports.pairwise_filter fun entry ↦ entry.file = right.file) hrenamed
      left (mem_importsOf_iff.mpr ⟨hleft, hfile⟩) right (mem_importsOf_iff.mpr ⟨hright, rfl⟩)
  wellFormed := hstore
  otherWellFormed := hother

namespace Store.Corresponds

variable {rename : Renaming} {store other : Store} (hstores : store.Corresponds rename other)
include hstores

/-- The paths of symbols decide before their ids do. -/
theorem compareByDistance_renamed {left right : Symbol} (hleft : left ∈ store.symbols)
    (hright : right ∈ store.symbols) (hproject : left.projectId = right.projectId) :
    (rename.symbol left).compareByDistance (rename.symbol right) =
      left.compareByDistance right := by
  change (compare left.filePath.length right.filePath.length).then
      ((compare left.filePath right.filePath).then
        ((compare left.span.startLine right.span.startLine).then
          (compare (rename .symbols left.id) (rename .symbols right.id)))) = _
  unfold Symbol.compareByDistance
  by_cases hpath : left.filePath = right.filePath
  · have hfile : left.file = right.file := by rw [Symbol.file, hproject, hpath, Symbol.file]
    rw [hstores.symbolOrder left hleft right hright hfile]
  · have hdecided : compare left.filePath right.filePath ≠ .eq := fun heq ↦
      hpath (Std.LawfulEqOrd.compare_eq_iff_eq.mp heq)
    cases hcompare : compare left.filePath right.filePath with
    | eq => exact absurd hcompare hdecided
    | lt => rfl
    | gt => rfl

theorem symbolsNamed_renamed (projectId : Int) (name : String) :
    other.symbolsNamed projectId name =
      (store.symbolsNamed projectId name).map rename.symbol := by
  refine sortBy_of_perm_map Symbol.id (fun left right heq ↦ ?_)
    (hstores.wellFormed.symbols.nodup_ids_filter _) (fun left hleft right hright ↦ ?_)
    (perm_filter_map (fun symbol ↦ rfl) hstores.symbols)
  · simp only [Symbol.compareByDistance, Ordering.then_eq_eq,
      Std.LawfulEqOrd.compare_eq_iff_eq] at heq
    exact heq.2.2.2
  · simp only [List.mem_filter, Bool.and_eq_true, beq_iff_eq] at hleft hright
    exact hstores.compareByDistance_renamed hleft.1 hright.1
      (hleft.2.1.trans hright.2.1.symm)

theorem symbolsInFile_renamed (projectId : Int) (filePath : String) :
    other.symbolsInFile projectId filePath =
      (store.symbolsInFile projectId filePath).map rename.symbol := by
  refine sortBy_of_perm_map Symbol.id (fun left right heq ↦ ?_)
    (hstores.wellFormed.symbols.nodup_ids_filter _) (fun left hleft right hright ↦ ?_)
    (perm_filter_map (fun symbol ↦ rfl) hstores.symbols)
  · simp only [Symbol.compareByLine, Ordering.then_eq_eq,
      Std.LawfulEqOrd.compare_eq_iff_eq] at heq
    exact heq.2
  · simp only [List.mem_filter, Bool.and_eq_true, beq_iff_eq] at hleft hright
    have hfile : left.file = right.file := by
      rw [Symbol.file, Symbol.file, hleft.2.1, hleft.2.2, hright.2.1, hright.2.2]
    exact congrArg (Ordering.then _) (hstores.symbolOrder left hleft.1 right hright.1 hfile)

theorem importsInFile_renamed (projectId : Int) (filePath : String) :
    other.importsInFile projectId filePath =
      (store.importsInFile projectId filePath).map rename.imported := by
  refine sortBy_of_perm_map Import.id (fun left right heq ↦ ?_)
    (hstores.wellFormed.imports.nodup_ids_filter _) (fun left hleft right hright ↦ ?_)
    (perm_filter_map (fun entry ↦ rfl) hstores.imports)
  · simp only [Import.compareByLine, Ordering.then_eq_eq,
      Std.LawfulEqOrd.compare_eq_iff_eq] at heq
    exact heq.2
  · simp only [List.mem_filter, Bool.and_eq_true, beq_iff_eq] at hleft hright
    have hfile : left.file = right.file := by
      rw [Import.file, Import.file, hleft.2.1, hleft.2.2, hright.2.1, hright.2.2]
    exact congrArg (Ordering.then _) (hstores.importOrder left hleft.1 right hright.1 hfile)

theorem fileView_renamed (projectId : Int) (filePath : String) :
    other.fileView projectId filePath = (store.fileView projectId filePath).renamed rename := by
  rw [fileView, hstores.symbolsInFile_renamed, hstores.importsInFile_renamed]
  rfl

/-- A symbol is found under its new id. -/
theorem symbol?_renamed (id : Int) :
    other.symbol? (rename .symbols id) = (store.symbol? id).map rename.symbol := by
  cases hfound : store.symbol? id with
  | none =>
    refine List.find?_eq_none.mpr fun image himage hid ↦ ?_
    obtain ⟨symbol, hsymbol, rfl⟩ := List.mem_map.mp (hstores.symbols.mem_iff.mp himage)
    have hsame : symbol.id = id := hstores.injective .symbols (eq_of_beq hid)
    exact List.find?_eq_none.mp hfound symbol hsymbol (beq_iff_eq.mpr hsame)
  | some symbol =>
    obtain ⟨hmem, rfl⟩ := mem_of_symbol?_eq_some hfound
    have hstored : rename.symbol symbol ∈ other.symbols :=
      hstores.symbols.mem_iff.mpr (List.mem_map_of_mem hmem)
    have hexists : other.hasSymbol (rename .symbols symbol.id) = true :=
      hasSymbol_eq_true_iff.mpr ⟨_, hstored, rfl⟩
    obtain ⟨image, himage⟩ := exists_symbol?_of_hasSymbol hexists
    obtain ⟨hother, hid⟩ := mem_of_symbol?_eq_some himage
    rw [himage, hstores.otherWellFormed.symbols.eq_of_id_eq hother hstored hid]
    rfl

end Store.Corresponds

/-! ### What is resolved to what -/

namespace Resolution

theorem pickCandidate_map (newId : Int → Int) (candidates : List String)
    (symbols : List (Int × String)) :
    pickCandidate candidates (symbols.map (Prod.map newId id)) =
      (pickCandidate candidates symbols).map newId := by
  unfold pickCandidate
  rw [List.map_findSome?]
  refine congrArg (List.findSome? · candidates) (funext fun candidate ↦ ?_)
  rw [List.find?_map, Function.comp_apply, Option.map_map, Option.map_map]
  rfl

/-! #### Callees in a renamed file -/

section Views

variable {rename : Renaming} (hfaithful : rename.Faithful) (file : FileView)
include hfaithful

theorem selfTarget_renamed (sourceId : Int) (member : String) :
    selfTarget (file.renamed rename) (rename .symbols sourceId) member =
      (selfTarget file sourceId member).map (rename .symbols) := by
  unfold selfTarget
  split
  · rfl
  · have hdeclared : ((file.renamed rename).enclosingClass (rename .symbols sourceId)).bind
        (fun owner ↦ (file.renamed rename).childNamed owner.id member) =
          ((file.enclosingClass sourceId).bind fun owner ↦ file.childNamed owner.id member).map
            rename.symbol := by
      rw [file.enclosingClass_renamed hfaithful, Option.bind_map, Option.map_bind]
      exact congrArg (file.enclosingClass sourceId).bind
        (funext fun owner ↦ file.childNamed_renamed hfaithful owner.id member)
    dsimp only
    rw [hdeclared, file.bestNamed_renamed hfaithful, ← Option.map_or, FileView.map_id_map_symbol]

theorem bareTarget_renamed (sourceId : Int) (name : String) :
    bareTarget (file.renamed rename) (rename .symbols sourceId) name =
      (bareTarget file sourceId name).map (rename .symbols) := by
  unfold bareTarget
  rw [file.scopedNamed_renamed hfaithful, FileView.map_id_map_symbol, file.resolvedImport_renamed,
    Option.map_or]

omit hfaithful in
theorem importedQualifier_renamed (qualifier : String) :
    importedQualifier (file.renamed rename) qualifier =
      (importedQualifier file qualifier).map (rename .symbols) := by
  unfold importedQualifier
  rw [file.resolvedImport_renamed, file.resolvedImport_renamed, Option.map_or]

theorem ownedTarget_renamed (qualifier member : String) :
    ownedTarget (file.renamed rename) qualifier member =
      (ownedTarget file qualifier member).map (rename .symbols) := by
  have howners : (file.renamed rename).symbols.filter (·.name == lastPart qualifier) =
      (file.symbols.filter (·.name == lastPart qualifier)).map rename.symbol := List.filter_map
  have hmember : ((file.renamed rename).symbols.filter (·.name == lastPart qualifier)).findSome?
      (fun owner ↦ (file.renamed rename).childNamed owner.id member) =
        ((file.symbols.filter (·.name == lastPart qualifier)).findSome? fun owner ↦
          file.childNamed owner.id member).map rename.symbol := by
    rw [howners, List.findSome?_map, List.map_findSome?]
    exact congrArg (List.findSome? · _)
      (funext fun owner ↦ file.childNamed_renamed hfaithful owner.id member)
  unfold ownedTarget
  rw [hmember, FileView.map_id_map_symbol]

end Views

/-! #### Imports and calls of a renamed store -/

theorem importTarget_renamed (rename : Renaming) (entry : Import) (symbols : List Symbol) :
    importTarget (rename.imported entry) (symbols.map rename.symbol) =
      (importTarget entry symbols).map (rename .symbols) := by
  unfold importTarget
  rw [show (rename.imported entry).filePath = entry.filePath from rfl]
  cases Language.ofPath? entry.filePath with
  | none => rfl
  | some language =>
    dsimp only
    rw [← pickCandidate_map, List.map_map, List.map_map]
    rfl

variable {rename : Renaming} {store other : Store} (hstores : store.Corresponds rename other)
include hstores

/-- A renamed import stands for the renamed symbol. -/
theorem importSymbol_imported (projectId : Int) (entry : Import) :
    importSymbol other projectId (rename.imported entry) =
      (importSymbol store projectId entry).map (rename .symbols) := by
  unfold importSymbol
  rw [← importTarget_renamed, ← hstores.symbolsNamed_renamed]
  rfl

theorem memberTarget_renamed (projectId targetId : Int) (member : String) :
    (memberTarget (directLookup other projectId) (rename .symbols targetId) member ()).1 =
      ((memberTarget (directLookup store projectId) targetId member ()).1).map
        (rename .symbols) := by
  unfold memberTarget directLookup
  dsimp only
  rw [hstores.symbol?_renamed]
  cases store.symbol? targetId with
  | none => rfl
  | some target =>
    change (((other.fileView projectId target.filePath).childNamed (rename .symbols target.id)
      member).or ((other.fileView projectId target.filePath).bestNamed member)).map (·.id) = _
    rw [hstores.fileView_renamed, FileView.childNamed_renamed hstores.toFaithful,
      FileView.bestNamed_renamed hstores.toFaithful, ← Option.map_or, FileView.map_id_map_symbol]

/-- A renamed call reaches the renamed symbol. -/
theorem callSymbol_call (projectId : Int) (call : Call) :
    callSymbol other projectId (rename.call call) =
      (callSymbol store projectId call).map (rename .symbols) := by
  have hfaithful := hstores.toFaithful
  let file := store.fileView projectId call.filePath
  have hfile : (directLookup other projectId).file (rename.call call).filePath () =
      (file.renamed rename, ()) := Prod.ext (hstores.fileView_renamed projectId call.filePath) rfl
  have hdirect : (directLookup store projectId).file call.filePath () = (file, ()) := rfl
  unfold callSymbol callTarget
  rw [hfile, hdirect, show (rename.call call).callee = call.callee from rfl,
    show (rename.call call).callerId = rename .symbols call.callerId from rfl]
  dsimp only
  cases calleeShape call.callee with
  | bare name => exact bareTarget_renamed hfaithful file call.callerId name
  | onSelf member => exact selfTarget_renamed hfaithful file call.callerId member
  | dotted qualifier member =>
    dsimp only
    rw [importedQualifier_renamed]
    cases importedQualifier file qualifier with
    | none => exact ownedTarget_renamed hfaithful file qualifier member
    | some targetId =>
      have hmember := memberTarget_renamed hstores projectId targetId member
      dsimp only [Option.map_some]
      generalize memberTarget (directLookup other projectId) (rename .symbols targetId) member () =
        answer at hmember ⊢
      generalize memberTarget (directLookup store projectId) targetId member () = direct
        at hmember ⊢
      obtain ⟨image, _⟩ := answer
      obtain ⟨found, _⟩ := direct
      obtain rfl : image = found.map (rename .symbols) := hmember
      cases found with
      | none => exact ownedTarget_renamed hfaithful file qualifier member
      | some symbolId => rfl

end Resolution

/-! ### Settling renamed rows -/

namespace Store.Ledger

variable {ρ : Type} {ledger : Ledger ρ}

/-- The change of rows goes together with settling them, when symbols have new ids. -/
structure Renames (ledger : Ledger ρ) (change : ρ → ρ) (newId : Int → Int) : Prop where
  projectId : ∀ row, ledger.projectId (change row) = ledger.projectId row
  isOpen : ∀ row, ledger.isOpen (change row) = ledger.isOpen row
  settle : ∀ row symbolId,
    ledger.settle (change row) (newId symbolId) = change (ledger.settle row symbolId)

theorem renames_imported (rename : Renaming) :
    Ledger.imports.Renames rename.imported (rename .symbols) where
  projectId := fun _ ↦ rfl
  isOpen := fun _ ↦ rfl
  settle := fun _ _ ↦ rfl

theorem renames_call (rename : Renaming) :
    Ledger.calls.Renames rename.call (rename .symbols) where
  projectId := fun _ ↦ rfl
  isOpen := fun _ ↦ Option.isNone_map
  settle := fun _ _ ↦ rfl

section Renames

variable {change : ρ → ρ} {newId : Int → Int} (hrenames : ledger.Renames change newId)
  {target image : ρ → Option Int} (htarget : ∀ row, image (change row) = (target row).map newId)
include hrenames htarget

theorem settleWith_change (row : ρ) :
    ledger.settleWith image (change row) = change (ledger.settleWith target row) := by
  unfold settleWith
  rw [htarget, hrenames.isOpen]
  cases target row with
  | none => rfl
  | some symbolId =>
    dsimp only [Option.map_some]
    split
    · exact hrenames.settle row symbolId
    · rfl

theorem perm_settleRows {store other : Store}
    (hperm : (ledger.rows other).Perm ((ledger.rows store).map change)) :
    (ledger.rows (ledger.settleRows image other)).Perm
      ((ledger.rows (ledger.settleRows target store)).map change) := by
  have hsettled := hperm.map (ledger.settleWith image)
  rw [List.map_map, show ledger.settleWith image ∘ change = change ∘ ledger.settleWith target from
    funext (settleWith_change hrenames htarget), ← List.map_map] at hsettled
  rwa [rows_settleRows, rows_settleRows]

theorem settledCount_change {rows others : List ρ} (hperm : others.Perm (rows.map change)) :
    ledger.settledCount image others = ledger.settledCount target rows := by
  unfold settledCount
  rw [hperm.countP_eq, List.countP_map]
  refine List.countP_congr fun row _ ↦ ?_
  rw [Function.comp_apply, hrenames.isOpen, htarget, Option.isSome_map]

omit htarget in
theorem stats_change (store other : Store)
    (hperm : (ledger.rows other).Perm ((ledger.rows store).map change)) (projectId : Int) :
    ledger.stats other projectId = ledger.stats store projectId := by
  have hrows : ((ledger.rows other).filter (ledger.projectId · == projectId)).Perm
      (((ledger.rows store).filter (ledger.projectId · == projectId)).map change) :=
    perm_filter_map (fun row ↦ congrArg (· == projectId) (hrenames.projectId row)) hperm
  unfold stats
  dsimp only
  rw [hrows.length_eq, hrows.countP_eq, List.length_map, List.countP_map]
  rw [show (fun row ↦ !ledger.isOpen row) ∘ change = fun row ↦ !ledger.isOpen row from
    funext fun row ↦ congrArg (!·) (hrenames.isOpen row)]

theorem within_change (projectId : Int) (size : Nat) (row : ρ) :
    Resolution.within ledger projectId size image (change row) =
      (Resolution.within ledger projectId size target row).map newId := by
  unfold Resolution.within
  rw [hrenames.projectId]
  split
  · exact htarget row
  · rfl

end Renames

end Store.Ledger

/-! ### Linking a renamed store -/

namespace Store.Corresponds

open Resolution

variable {rename : Renaming} {store other : Store} (hstores : store.Corresponds rename other)
  (projectId : Int) (size : Nat)
include hstores

theorem within_importSymbol (entry : Import) :
    within .imports projectId size (importSymbol other projectId) (rename.imported entry) =
      (within .imports projectId size (importSymbol store projectId) entry).map
        (rename .symbols) :=
  Ledger.within_change (Ledger.renames_imported rename) (importSymbol_imported hstores projectId)
    projectId size entry

theorem within_callSymbol (call : Call) :
    within .calls projectId size (callSymbol other projectId) (rename.call call) =
      (within .calls projectId size (callSymbol store projectId) call).map (rename .symbols) :=
  Ledger.within_change (Ledger.renames_call rename) (callSymbol_call hstores projectId)
    projectId size call

theorem linkedImports : (linkedImports store projectId size).Corresponds rename
    (Resolution.linkedImports other projectId size) where
  projects := hstores.projects
  symbols := hstores.symbols
  imports := Ledger.perm_settleRows (Ledger.renames_imported rename)
    (hstores.within_importSymbol projectId size) hstores.imports
  calls := hstores.calls
  injective := hstores.injective
  zero := hstores.zero
  symbolOrder := hstores.symbolOrder
  importOrder := by
    -- settling leaves the ids and the files of imports
    have hkept : ∀ entry : Import,
        let settled := Ledger.imports.settleWith
          (within .imports projectId size (importSymbol store projectId)) entry
        settled.id = entry.id ∧ settled.file = entry.file := by
      intro entry settled
      have hcases : settled = entry ∨ _ := Ledger.settleWith_cases _ entry
      rcases hcases with hsame | ⟨-, symbolId, -, hsettled⟩
      · rw [hsame]
        exact ⟨rfl, rfl⟩
      · rw [show settled = entry.settle symbolId from hsettled]
        exact ⟨rfl, rfl⟩
    intro left hleft right hright hfile
    obtain ⟨first, hfirst, rfl⟩ := List.mem_map.mp hleft
    obtain ⟨second, hsecond, rfl⟩ := List.mem_map.mp hright
    rw [(hkept first).2, (hkept second).2] at hfile
    rw [(hkept first).1, (hkept second).1]
    exact hstores.importOrder first hfirst second hsecond hfile
  wellFormed := wellFormed_linkedImports hstores.wellFormed projectId size
  otherWellFormed := wellFormed_linkedImports hstores.otherWellFormed projectId size

theorem linkedCalls : (linkedCalls store projectId size).Corresponds rename
    (Resolution.linkedCalls other projectId size) where
  projects := hstores.projects
  symbols := hstores.symbols
  imports := hstores.imports
  calls := Ledger.perm_settleRows (Ledger.renames_call rename)
    (hstores.within_callSymbol projectId size) hstores.calls
  injective := hstores.injective
  zero := hstores.zero
  symbolOrder := hstores.symbolOrder
  importOrder := hstores.importOrder
  wellFormed := relates_linkedCalls keptByWrites_wellFormed hstores.wellFormed projectId size
    hstores.wellFormed
  otherWellFormed := relates_linkedCalls keptByWrites_wellFormed hstores.otherWellFormed projectId
    size hstores.otherWellFormed

/-- Linking a renamed store gives the renamed linked store. -/
theorem linked : (linked store projectId size).Corresponds rename
    (Resolution.linked other projectId size) :=
  (hstores.linkedImports projectId size).linkedCalls projectId size

omit size in
theorem importStats_eq : other.importStats projectId = store.importStats projectId :=
  Ledger.stats_change (Ledger.renames_imported rename) store other hstores.imports projectId

omit size in
theorem callStats_eq : other.callStats projectId = store.callStats projectId :=
  Ledger.stats_change (Ledger.renames_call rename) store other hstores.calls projectId

theorem linkedImportStats_eq :
    linkedImportStats other projectId size = linkedImportStats store projectId size := by
  unfold linkedImportStats
  rw [(hstores.linkedImports projectId size).importStats_eq,
    Ledger.settledCount_change (Ledger.renames_imported rename)
      (hstores.within_importSymbol projectId size) hstores.imports]

theorem linkedCallStats_eq :
    linkedCallStats other projectId size = linkedCallStats store projectId size := by
  unfold linkedCallStats
  rw [(hstores.linkedCalls projectId size).callStats_eq,
    Ledger.settledCount_change (Ledger.renames_call rename)
      (hstores.within_callSymbol projectId size) hstores.calls]

/-- Linking a renamed store comes to the same counts. -/
theorem linkStats_eq : linkStats other projectId size = linkStats store projectId size :=
  Prod.ext (hstores.linkedImportStats_eq projectId size)
    ((hstores.linkedImports projectId size).linkedCallStats_eq projectId size)

end Store.Corresponds

end SymbolGraph
