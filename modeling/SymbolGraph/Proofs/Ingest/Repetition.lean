import SymbolGraph.Proofs.Ingest.Scope
import SymbolGraph.Proofs.Store.Rewriting

/-!
# Storing a file again

A file is stored a second time over a store that has grown from what the first time left. The two
times go in step (`Store.Repeats`): every declaration is accepted under the same row or conflicts
with the same row, because rows keep their keys and their kinds; every import has its row; and no
call is new. So the counts are the same but for the new calls (`Repeats.extraction`), and each row
goes through the details that it went through at the first time.
-/

set_option autoImplicit false
set_option relaxedAutoImplicit false

namespace SymbolGraph

/-- What the file contributes when all its calls are stored already. -/
def FileStats.withoutNewCalls (stats : FileStats) : FileStats :=
  { stats with calls := 0 }

namespace Store

/-- The store of a second time, in step with the store of the first time, over the final store. -/
structure Repeats (final earlier again : Store) : Prop where
  projects : again.projects = final.projects
  symbols : Columns.symbols.Repeats final.symbols earlier.symbols again.symbols
  imports : Columns.imports.Repeats final.imports earlier.imports again.imports
  calls : again.calls = final.calls

theorem Repeats.refl (final earlier : Store) : Repeats final earlier final where
  projects := rfl
  symbols := .refl _ _ _
  imports := .refl _ _ _
  calls := rfl

section Grows

variable {final earlier : Store} (hgrows : earlier.Grows final)
include hgrows

theorem Grows.within_symbols : Columns.symbols.Within final.symbols earlier.symbols := by
  intro symbol hsymbol
  obtain ⟨last, hlast, hpersists⟩ := hgrows.symbols.exists_mem hsymbol
  exact ⟨last, hlast, hpersists.id, hpersists.key⟩

theorem Grows.within_imports : Columns.imports.Within final.imports earlier.imports := by
  intro entry hentry
  obtain ⟨last, hlast, hpersists⟩ := hgrows.imports.exists_mem hentry
  exact ⟨last, hlast, hpersists.id, hpersists.key⟩

end Grows

end Store

namespace Ingest

open Store (Repeats Columns)

variable {file : Store.FileScope} {final earlier later again : Store}

section Repeats

variable (hfinal : final.WellFormed) (hrepeats : Repeats final earlier again)
include hfinal hrepeats

/-! ### Declarations -/

/-- The place of a stored symbol is taken at the second time by a row of its id and its kind. -/
theorem exists_find?_of_repeats (hgrows : later.Grows final) {written : Symbol}
    (hwritten : written ∈ later.symbols) {parentKey : Int} {name : String}
    (hholds : file.holdsSymbol parentKey name written = true) :
    ∃ row, again.symbols.find? (file.holdsSymbol parentKey name) = some row ∧
      row.id = written.id ∧ row.kind = written.kind := by
  obtain ⟨last, hlast, hpersists⟩ := hgrows.symbols.exists_mem hwritten
  have hkey := hpersists.key.trans (Store.FileScope.holdsSymbol_eq_true_iff.mp hholds)
  obtain ⟨details, hfound⟩ := hrepeats.symbols.exists_find? hfinal.symbols
    (fun _ ↦ Store.FileScope.holdsSymbol_eq_true_iff) hlast hkey
  exact ⟨_, hfound, hpersists.id, hpersists.kind⟩

/-- A declaration that was accepted under a row is accepted under it again. -/
theorem repeats_accepted (hearlier : earlier.Grows final) {parentId : Option Int}
    {declaration : Declaration} {symbols : List Symbol}
    (hgrows : Store.Grows { earlier with symbols := symbols } final)
    (hrest : ∀ row ∈ earlier.symbols,
      file.holdsSymbol (parentId.getD 0) declaration.name row = false → row ∈ symbols)
    {written : Symbol} (hwritten : written ∈ symbols)
    (hholds : file.holdsSymbol (parentId.getD 0) declaration.name written = true)
    (hkind : written.kind = declaration.kind)
    (hsignature : written.signature = declaration.signature)
    (hspan : written.span = declaration.span) (state : PersistState) :
    ∃ last, persistBelow (storeSink file) parentId declaration state again =
        (.ok (state.accepted declaration.tag written.id), last) ∧
      Repeats final { earlier with symbols := symbols } last := by
  obtain ⟨row, hfound, hid, hrowKind⟩ :=
    exists_find?_of_repeats hfinal hrepeats hgrows hwritten hholds
  have hsymbols := hrepeats.symbols.write hfinal.symbols
    (fun _ ↦ Store.FileScope.holdsSymbol_eq_true_iff) hearlier.within_symbols hgrows.within_symbols
    (fun other hother hne ↦ hrest other hother (Bool.eq_false_iff.mpr fun hsame ↦
      hne (Store.FileScope.holdsSymbol_eq_true_iff.mp hsame)))
    hwritten (Store.FileScope.holdsSymbol_eq_true_iff.mp hholds)
  have hdetails : Columns.symbols.details written = (declaration.signature, declaration.span) :=
    Prod.ext hsignature hspan
  rw [hdetails] at hsymbols
  refine ⟨again.amendSymbol file parentId declaration, ?_,
    { hrepeats with symbols := hsymbols }⟩
  rw [persistBelow_of_taken hfound, if_pos (hrowKind.trans hkind), hid]

/-- A declaration that is offered again is accepted under the same row, or conflicts again. -/
theorem repeats_persistBelow (hearlier : earlier.Grows final) (hlater : later.Grows final)
    (hproject : earlier.hasProject file.projectId = true) {parentId : Option Int}
    (hparent : ∀ parent, parentId = some parent → earlier.hasSymbol parent = true)
    {declaration : Declaration} {state next : PersistState}
    (hrun : persistBelow (storeSink file) parentId declaration state earlier = (.ok next, later)) :
    ∃ last, persistBelow (storeSink file) parentId declaration state again = (.ok next, last) ∧
      Repeats final later last := by
  cases hfound : earlier.symbols.find?
      (file.holdsSymbol (parentId.getD 0) declaration.name) with
  | none =>
    rw [persistBelow_of_free hfound hparent, hproject, if_pos rfl] at hrun
    obtain ⟨hnext, rfl⟩ := Prod.mk.inj hrun
    obtain rfl := Except.ok.inj hnext
    refine repeats_accepted hfinal hrepeats hearlier hlater
      (fun row hrow _ ↦ List.mem_append_left _ hrow)
      (List.mem_append_right _ (List.mem_singleton_self _)) ?_ rfl rfl rfl state
    exact Store.FileScope.holdsSymbol_eq_true_iff.mpr rfl
  | some existing =>
    have hmem := List.mem_of_find?_eq_some hfound
    have hholds := List.find?_some hfound
    rw [persistBelow_of_taken hfound] at hrun
    split at hrun
    · rename_i hkind
      obtain ⟨hnext, rfl⟩ := Prod.mk.inj hrun
      obtain rfl := Except.ok.inj hnext
      have hrest : ∀ row ∈ earlier.symbols,
          file.holdsSymbol (parentId.getD 0) declaration.name row = false →
            row ∈ (earlier.amendSymbol file parentId declaration).symbols := by
        intro row hrow hother
        exact List.mem_map.mpr ⟨row, hrow, by rw [hother]; rfl⟩
      have hwritten : existing.takeOver declaration ∈
          (earlier.amendSymbol file parentId declaration).symbols :=
        List.mem_map.mpr ⟨existing, hmem, by rw [hholds]; rfl⟩
      exact repeats_accepted hfinal hrepeats hearlier hlater hrest hwritten hholds hkind rfl rfl
        state
    · rename_i hkind
      obtain ⟨hnext, rfl⟩ := Prod.mk.inj hrun
      obtain ⟨row, hagain, -, hrowKind⟩ :=
        exists_find?_of_repeats hfinal hrepeats hearlier hmem hholds
      refine ⟨again, ?_, hrepeats⟩
      rw [persistBelow_of_taken hagain, if_neg (hrowKind ▸ hkind), hnext]

/-- Declarations that are offered again get the same ids and come to the same counts. -/
theorem repeats_persistFrom (hearlier : earlier.Grows final) (hlater : later.Grows final)
    (hproject : earlier.hasProject file.projectId = true) {declared : List Declaration}
    {state last : PersistState} (hscope : ScopeStored file state.scope earlier)
    (hrun : persistFrom (storeSink file) declared state earlier = (.ok last, later)) :
    ∃ after, persistFrom (storeSink file) declared state again = (.ok last, after) ∧
      Repeats final later after := by
  induction declared generalizing state earlier again with
  | nil =>
    obtain ⟨hlast, rfl⟩ := Prod.mk.inj hrun
    exact ⟨again, congrArg (·, again) hlast, hrepeats⟩
  | cons declaration rest ih =>
    unfold persistFrom at hrun ⊢
    rw [persistOne_eq] at hrun ⊢
    cases hplace : state.scope.place? declaration.parent with
    | none =>
      rw [hplace] at hrun
      exact ih hrepeats hearlier hproject
        (show ScopeStored file state.orphaned.scope earlier from hscope) hrun
    | some parentId =>
      have hstored := hscope.hasSymbol_of_place? hplace
      obtain ⟨next, middle, hbelow⟩ := exists_persistBelow hproject hstored declaration state
      have hgrows := grows_of_persistBelow hbelow
      rw [hplace] at hrun
      dsimp only at hrun ⊢
      rw [hbelow] at hrun
      dsimp only at hrun
      have hmiddle : middle.Grows final := by
        have hoffered := relates_persistFrom Store.Grows.refl Store.Grows.trans
          (grows_storeSink file) rest next middle
        rw [hrun] at hoffered
        exact hoffered.trans _ _ _ hlater
      obtain ⟨middleAgain, hbelowAgain, hrepeats⟩ := repeats_persistBelow hfinal hrepeats hearlier
        hmiddle hproject hstored hbelow
      rw [hbelowAgain]
      exact ih hrepeats hmiddle (hgrows.hasProject hproject)
        (scopeStored_persistBelow hscope hbelow) hrun

/-! ### Imports and calls -/

theorem repeats_upsertImport (hearlier : earlier.Grows final) (hlater : later.Grows final)
    {mention : ImportMention}
    (hrun : (Store.upsertImport file mention).run earlier = .ok ((), later)) :
    ∃ last, (Store.upsertImport file mention).run again = .ok ((), last) ∧
      Repeats final later last := by
  have hwritten : ∃ written ∈ later.imports,
      file.holdsImport mention.source mention.name written = true ∧
      Columns.imports.details written = (mention.binding, mention.line) ∧
      (∀ entry ∈ earlier.imports, file.holdsImport mention.source mention.name entry = false →
        entry ∈ later.imports) ∧ later = { earlier with imports := later.imports } := by
    rcases Store.upsertImport_cases hrun with ⟨⟨entry, hentry, hholds⟩, rfl⟩ | ⟨-, -, rfl⟩
    · refine ⟨entry.takeOver mention, List.mem_map.mpr ⟨entry, hentry, by rw [hholds]; rfl⟩, hholds,
        rfl, fun other hother hfree ↦ List.mem_map.mpr ⟨other, hother, by rw [hfree]; rfl⟩, rfl⟩
    · exact ⟨_, List.mem_append_right _ (List.mem_singleton_self _),
        Store.FileScope.holdsImport_eq_true_iff.mpr rfl, rfl,
        fun other hother _ ↦ List.mem_append_left _ hother, rfl⟩
  obtain ⟨written, hmem, hholds, hdetails, hrest, hsame⟩ := hwritten
  obtain ⟨last, hlast, hid, hkey⟩ := hlater.within_imports written hmem
  have hholdsKey := Store.FileScope.holdsImport_eq_true_iff.mp hholds
  obtain ⟨details, hfound⟩ := hrepeats.imports.exists_find? hfinal.imports
    (fun _ ↦ Store.FileScope.holdsImport_eq_true_iff) hlast (hkey.trans hholdsKey)
  have hany : again.imports.any (file.holdsImport mention.source mention.name) = true :=
    List.any_eq_true.mpr ⟨_, List.mem_of_find?_eq_some hfound, List.find?_some hfound⟩
  have himports := hrepeats.imports.write hfinal.imports
    (fun _ ↦ Store.FileScope.holdsImport_eq_true_iff) hearlier.within_imports hlater.within_imports
    (fun other hother hne ↦ hrest other hother (Bool.eq_false_iff.mpr fun hsame ↦
      hne (Store.FileScope.holdsImport_eq_true_iff.mp hsame)))
    hmem hholdsKey
  rw [hdetails] at himports
  refine ⟨again.amendImport file mention, ?_, ?_⟩
  · rw [Store.upsertImport_run, if_pos hany]
  · rw [hsame]
    exact { hrepeats with imports := himports }

theorem repeats_imports (hearlier : earlier.Grows final) (hlater : later.Grows final)
    {mentions : List ImportMention}
    (hrun : (imports file mentions).run earlier = .ok ((), later)) :
    ∃ last, (imports file mentions).run again = .ok ((), last) ∧ Repeats final later last := by
  induction mentions generalizing earlier again with
  | nil =>
    obtain ⟨-, rfl⟩ := Prod.mk.inj (Store.run_pure_eq_ok_iff.mp hrun)
    exact ⟨again, rfl, hrepeats⟩
  | cons mention rest ih =>
    obtain ⟨_, middle, hfirst, hothers⟩ := Store.run_bind_eq_ok_iff.mp hrun
    have hgrows := preserves_imports Store.keptByWrites_grows.toIsPreorder
      (Store.grows_upsertImport file) rest _ _ _ hothers
    have hmiddle := hgrows.trans _ _ _ hlater
    obtain ⟨middleAgain, hfirstAgain, hrepeats⟩ :=
      repeats_upsertImport hfinal hrepeats hearlier hmiddle hfirst
    obtain ⟨last, hothersAgain, hrepeats⟩ := ih hrepeats hmiddle hothers
    exact ⟨last, Store.run_bind_eq_ok_iff.mpr ⟨_, _, hfirstAgain, hothersAgain⟩, hrepeats⟩

omit hfinal in
/-- No call is new at the second time. -/
theorem repeats_calls (hlater : later.Grows final) {scope : IdentityScope}
    {mentions : List CallMention} {counts : CallCounts}
    (hrun : (calls file scope mentions).run earlier = .ok (counts, later)) :
    (calls file scope mentions).run again = .ok ({ counts with stored := 0 }, again) ∧
      Repeats final later again := by
  induction mentions generalizing earlier counts with
  | nil =>
    obtain ⟨rfl, rfl⟩ := Prod.mk.inj (Store.run_pure_eq_ok_iff.mp hrun)
    exact ⟨rfl, hrepeats⟩
  | cons mention rest ih =>
    unfold calls at hrun ⊢
    cases hcaller : scope.resolve? mention.caller with
    | none =>
      rw [hcaller] at hrun
      obtain ⟨others, _, hothers, hdone⟩ := Store.run_bind_eq_ok_iff.mp hrun
      obtain ⟨rfl, rfl⟩ := Prod.mk.inj (Store.run_pure_eq_ok_iff.mp hdone)
      obtain ⟨hothersAgain, hrepeats⟩ := ih hrepeats hothers
      exact ⟨Store.run_bind_eq_ok_iff.mpr ⟨_, _, hothersAgain, rfl⟩, hrepeats⟩
    | some callerId =>
      rw [hcaller] at hrun
      obtain ⟨isNew, middle, hfirst, hrest⟩ := Store.run_bind_eq_ok_iff.mp hrun
      obtain ⟨others, _, hothers, hdone⟩ := Store.run_bind_eq_ok_iff.mp hrest
      obtain ⟨hcounts, rfl⟩ := Prod.mk.inj (Store.run_pure_eq_ok_iff.mp hdone)
      have hgrows := preserves_calls Store.keptByWrites_grows.toIsPreorder
        (Store.grows_insertCall file) scope rest _ _ _ hothers
      have hwritten : (∃ call ∈ middle.calls,
          file.holdsCall callerId mention.callee mention.line call = true) ∧
          Repeats final middle again := by
        rcases Store.insertCall_cases hfirst with ⟨hstored, -, rfl⟩ | ⟨-, -, -, -, rfl⟩
        · exact ⟨hstored, hrepeats⟩
        · exact ⟨⟨_, List.mem_append_right _ (List.mem_singleton_self _),
            Store.FileScope.holdsCall_eq_true_iff.mpr rfl⟩, { hrepeats with }⟩
      obtain ⟨⟨call, hcall, hholds⟩, hmiddle⟩ := hwritten
      have hstored : again.calls.any
          (file.holdsCall callerId mention.callee mention.line) = true := by
        obtain ⟨last, hlast, hpersists⟩ := (hgrows.trans _ _ _ hlater).calls.exists_mem hcall
        rw [hrepeats.calls]
        refine List.any_eq_true.mpr ⟨last, hlast, Store.FileScope.holdsCall_eq_true_iff.mpr ?_⟩
        exact hpersists.key.trans (Store.FileScope.holdsCall_eq_true_iff.mp hholds)
      obtain ⟨hothersAgain, hlast⟩ := ih hmiddle hothers
      refine ⟨Store.run_bind_eq_ok_iff.mpr ⟨false, again, Store.insertCall_run_of_stored hstored,
        Store.run_bind_eq_ok_iff.mpr ⟨_, _, hothersAgain, ?_⟩⟩, hlast⟩
      subst hcounts
      cases isNew with
      | false => rfl
      | true => rfl

/-! ### Files -/

/-- What was read from a file is stored again under the same rows and with the same counts, but none
of its calls is new. -/
theorem repeats_extraction (hearlier : earlier.Grows final) (hlater : later.Grows final)
    (hproject : earlier.hasProject file.projectId = true) {read : Extraction} {stats : FileStats}
    (hrun : (extraction file read).run earlier = .ok (stats, later)) :
    ∃ last, (extraction file read).run again = .ok (stats.withoutNewCalls, last) ∧
      Repeats final later last := by
  obtain ⟨persisted, declared, hdeclared, hrest⟩ := Store.run_bind_eq_ok_iff.mp hrun
  obtain ⟨_, imported, himports, hrest⟩ := Store.run_bind_eq_ok_iff.mp hrest
  obtain ⟨counts, _, hcalls, hdone⟩ := Store.run_bind_eq_ok_iff.mp hrest
  obtain ⟨rfl, rfl⟩ := Prod.mk.inj (Store.run_pure_eq_ok_iff.mp hdone)
  have himported : imported.Grows final :=
    (preserves_calls Store.keptByWrites_grows.toIsPreorder (Store.grows_insertCall file) _ _ _ _ _
      hcalls).trans _ _ _ hlater
  have hdeclaredGrows : declared.Grows final :=
    (preserves_imports Store.keptByWrites_grows.toIsPreorder (Store.grows_upsertImport file) _ _ _ _
      himports).trans _ _ _ himported
  obtain ⟨declaredAgain, hdeclaredAgain, hrepeats⟩ := repeats_persistFrom hfinal hrepeats hearlier
    hdeclaredGrows hproject (scopeStored_start file earlier)
    (declarations_run_eq_ok_iff.mp hdeclared)
  obtain ⟨importedAgain, himportsAgain, hrepeats⟩ :=
    repeats_imports hfinal hrepeats hdeclaredGrows himported himports
  obtain ⟨hcallsAgain, hrepeats⟩ := repeats_calls hrepeats hlater hcalls
  exact ⟨importedAgain, Store.run_bind_eq_ok_iff.mpr
    ⟨_, _, declarations_run_eq_ok_iff.mpr hdeclaredAgain, Store.run_bind_eq_ok_iff.mpr
      ⟨_, _, himportsAgain, Store.run_bind_eq_ok_iff.mpr ⟨_, _, hcallsAgain, rfl⟩⟩⟩, hrepeats⟩

end Repeats

end Ingest

end SymbolGraph
