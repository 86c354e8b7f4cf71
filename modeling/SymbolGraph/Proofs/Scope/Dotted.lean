import SymbolGraph.Proofs.Scope.Calls

/-!
# What dotted calls mean

A member of anything but the receiver is looked up by its qualifier (`Store.MeansDotted`). The
qualifier may be imported, as a whole or by its first part (`Store.ImportedAs`). When the file of
what it is imported as has the member, the call means what the imported symbol declares, or else the
best symbol of the name in that file. Otherwise it means what the first symbol of the calling file
declares that is called like the last part of the qualifier (`Store.OwnsFirst`).

In every store that ordinary runs reach, the call reaches this (`dottedCalls_storeAfterSteps`). The
imported symbol is looked up in the whole store and its file in the calling project; they fit as
imports are resolved inside their project (`Store.ImportedAs.projectId_eq`).
-/

set_option autoImplicit false
set_option relaxedAutoImplicit false

namespace SymbolGraph

open Resolution (IsFirstPart IsLastPart)
open Store (FileScope)

/-- The import is resolved to the symbol. -/
def Import.StandsFor (store : Store) (entry : Import) (symbol : Symbol) : Prop :=
  symbol ∈ store.symbols ∧ entry.target = some symbol.id

namespace Store

/-- What the file imports a qualifier as: what the first import of the whole qualifier stands for,
or else, when there is no such import, what the first import of its first part does. -/
inductive ImportedAs (store : Store) (file : FileScope) (qualifier : String) : Symbol → Prop
  | whole {entry : Import} {target : Symbol} (hfirst : store.BringsInFirst file qualifier entry)
      (hstands : entry.StandsFor store target) : ImportedAs store file qualifier target
  | firstPart {part : String} {entry : Import} {target : Symbol}
      (hnone : ∀ other, ¬store.BringsIn file qualifier other) (hpart : IsFirstPart qualifier part)
      (hfirst : store.BringsInFirst file part entry) (hstands : entry.StandsFor store target) :
      ImportedAs store file qualifier target

/-- The symbol of the file has the name and declares the member. -/
structure Owns (store : Store) (file : FileScope) (name member : String) (owner : Symbol) :
    Prop where
  mem : owner ∈ store.symbols
  inFile : owner.file = file
  hasName : owner.name = name
  declares : ∃ symbol, store.Declares owner member symbol

/-- It is the first such symbol. -/
structure OwnsFirst (store : Store) (file : FileScope) (name member : String) (owner : Symbol) :
    Prop extends store.Owns file name member owner where
  least : ∀ other, store.Owns file name member other → owner.position ≤ other.position

/-- What a member of a qualifier means in a file. When the qualifier is imported as a symbol whose
file has the member, this is what that symbol declares, or else the best symbol of the name in that
file. Otherwise it is what the first symbol of the calling file declares that is called like the
last part of the qualifier. -/
inductive MeansDotted (store : Store) (file : FileScope) (qualifier member : String) :
    Option Int → Prop
  | declared {target symbol : Symbol} (himported : store.ImportedAs file qualifier target)
      (hdeclares : store.Declares target member symbol) :
      MeansDotted store file qualifier member (some symbol.id)
  | inItsFile {target symbol : Symbol} (himported : store.ImportedAs file qualifier target)
      (hnone : ∀ other, ¬store.Declares target member other)
      (hbest : store.IsBest target.file member symbol) :
      MeansDotted store file qualifier member (some symbol.id)
  | owned {part : String} {owner symbol : Symbol}
      (helse : ∀ target, store.ImportedAs file qualifier target →
        ∀ other, ¬store.Names target.file member other)
      (hpart : IsLastPart qualifier part) (hfirst : store.OwnsFirst file part member owner)
      (hdeclares : store.Declares owner member symbol) :
      MeansDotted store file qualifier member (some symbol.id)
  | unknown {part : String}
      (helse : ∀ target, store.ImportedAs file qualifier target →
        ∀ other, ¬store.Names target.file member other)
      (hpart : IsLastPart qualifier part) (hnone : ∀ owner, ¬store.Owns file part member owner) :
      MeansDotted store file qualifier member none

variable {store : Store} {file : FileScope} {qualifier member : String}

/-- The symbol that is imported as the qualifier is found through the imports. -/
theorem importedAs_iff (hstore : store.WellFormed) {target : Symbol} :
    store.ImportedAs file qualifier target ↔
      (Resolution.importedQualifier (store.view file) qualifier).bind store.symbol? =
        some target := by
  have hsymbol : ∀ id, store.symbol? id = some target ↔
      target ∈ store.symbols ∧ target.id = id := by
    refine fun id ↦ ⟨mem_of_symbol?_eq_some, ?_⟩
    rintro ⟨hmem, rfl⟩
    exact hstore.symbol?_id hmem
  rw [Option.bind_eq_some_iff]
  simp only [Resolution.importedQualifier, Option.or_eq_some_iff, hsymbol,
    resolvedImport_eq_some_iff hstore, resolvedImport_eq_none_iff hstore]
  constructor
  · intro himported
    cases himported with
    | whole hfirst hstands =>
      exact ⟨target.id, Or.inl ⟨_, hfirst, hstands.2⟩, hstands.1, rfl⟩
    | firstPart hnone hpart hfirst hstands =>
      obtain rfl := Resolution.isFirstPart_iff.mp hpart
      exact ⟨target.id, Or.inr ⟨hnone, _, hfirst, hstands.2⟩, hstands.1, rfl⟩
  · rintro ⟨id, hfound, hmem, rfl⟩
    rcases hfound with ⟨entry, hfirst, htarget⟩ | ⟨hnone, entry, hfirst, htarget⟩
    · exact .whole hfirst ⟨hmem, htarget⟩
    · exact .firstPart hnone (Resolution.isFirstPart_iff.mpr rfl) hfirst ⟨hmem, htarget⟩

theorem ImportedAs.mem {target : Symbol} (himported : store.ImportedAs file qualifier target) :
    target ∈ store.symbols := by
  cases himported with
  | whole _ hstands => exact hstands.1
  | firstPart _ _ _ hstands => exact hstands.1

/-- In a store that resolves soundly, an imported qualifier is a symbol of the project. -/
theorem ImportedAs.projectId_eq (hstore : store.WellFormed) (hsound : store.ResolutionSound)
    {target : Symbol} (himported : store.ImportedAs file qualifier target) :
    target.projectId = file.projectId := by
  have hown : ∀ entry name, store.BringsInFirst file name entry → entry.StandsFor store target →
      target.projectId = file.projectId := by
    intro entry name hfirst hstands
    obtain ⟨same, hsame, hid, hproject, -⟩ :=
      (hsound.imports entry hfirst.mem).target target.id hstands.2
    obtain rfl := hstore.symbols.eq_of_id_eq hsame hstands.1 hid
    exact hproject.trans (congrArg FileScope.projectId hfirst.inFile)
  cases himported with
  | whole hfirst hstands => exact hown _ _ hfirst hstands
  | firstPart _ _ hfirst hstands => exact hown _ _ hfirst hstands

variable (hstore : store.WellFormed) (hnested : store.Nested)

include hstore hnested

theorem owns_iff {name : String} {owner : Symbol} : store.Owns file name member owner ↔
    owner ∈ (store.view file).symbols ∧
      (owner.name == name && ((store.view file).childNamed owner.id member).isSome) = true := by
  rw [Bool.and_eq_true, beq_iff_eq]
  constructor
  · rintro ⟨hmem, hfile, hname, symbol, hdeclares⟩
    have howner := mem_symbols_view_iff.mpr ⟨hmem, hfile⟩
    refine ⟨howner, hname, Option.isSome_iff_exists.mpr ⟨symbol, ?_⟩⟩
    exact (childNamed_eq_some_iff hstore hnested howner).mpr hdeclares
  · rintro ⟨howner, hname, hchild⟩
    obtain ⟨symbol, hfound⟩ := Option.isSome_iff_exists.mp hchild
    obtain ⟨hmem, hfile⟩ := mem_symbols_view_iff.mp howner
    exact ⟨hmem, hfile, hname, symbol, (childNamed_eq_some_iff hstore hnested howner).mp hfound⟩

theorem ownsFirst_iff {name : String} {owner : Symbol} :
    store.OwnsFirst file name member owner ↔ ((store.view file).symbols.find? fun other ↦
      other.name == name && ((store.view file).childNamed other.id member).isSome) =
        some owner := by
  rw [hstore.find?_symbols_view]
  simp only [← owns_iff hstore hnested]
  exact ⟨fun hfirst ↦ ⟨hfirst.toOwns, hfirst.least⟩, fun hboth ↦ ⟨hboth.1, hboth.2⟩⟩

omit hstore hnested in
/-- Asking the rows that pass a test one after the other is asking the first that has an answer. -/
theorem findSome?_filter_eq {α β : Type} (test : α → Bool) (answer : α → Option β)
    (rows : List α) : (rows.filter test).findSome? answer =
      (rows.find? fun row ↦ test row && (answer row).isSome).bind answer := by
  induction rows with
  | nil => rfl
  | cons row rest ih =>
    cases htest : test row with
    | false => simp [htest, ih]
    | true =>
      cases hanswer : answer row with
      | none => simp [htest, hanswer, ih]
      | some value => simp [htest, hanswer]

theorem ownedTarget_eq_some_iff {symbolId : Int} :
    Resolution.ownedTarget (store.view file) qualifier member = some symbolId ↔
      ∃ owner symbol, store.OwnsFirst file (Resolution.lastPart qualifier) member owner ∧
        store.Declares owner member symbol ∧ symbol.id = symbolId := by
  rw [Resolution.ownedTarget, findSome?_filter_eq, Option.map_eq_some_iff]
  simp only [Option.bind_eq_some_iff, ← ownsFirst_iff hstore hnested]
  constructor
  · rintro ⟨symbol, ⟨owner, hfirst, hchild⟩, hid⟩
    have howner := mem_symbols_view_iff.mpr ⟨hfirst.mem, hfirst.inFile⟩
    exact ⟨owner, symbol, hfirst, (childNamed_eq_some_iff hstore hnested howner).mp hchild, hid⟩
  · rintro ⟨owner, symbol, hfirst, hdeclares, hid⟩
    have howner := mem_symbols_view_iff.mpr ⟨hfirst.mem, hfirst.inFile⟩
    exact ⟨symbol, ⟨owner, hfirst, (childNamed_eq_some_iff hstore hnested howner).mpr hdeclares⟩,
      hid⟩

theorem ownedTarget_eq_none_iff :
    Resolution.ownedTarget (store.view file) qualifier member = none ↔
      ∀ owner, ¬store.Owns file (Resolution.lastPart qualifier) member owner := by
  rw [Resolution.ownedTarget, Option.map_eq_none_iff, List.findSome?_eq_none_iff]
  simp only [owns_iff hstore hnested, List.mem_filter, Bool.and_eq_true, not_and, and_imp,
    Bool.not_eq_true, Option.isSome_eq_false_iff, Option.isNone_iff_eq_none]

/-- Inside the file of a symbol, a member of it is what it declares, or else the best symbol of the
name. -/
theorem memberInFile_eq_none_iff {target : Symbol} (htarget : target ∈ store.symbols) :
    ((store.view target.file).childNamed target.id member).or
        ((store.view target.file).bestNamed member) = none ↔
      ∀ symbol, ¬store.Names target.file member symbol := by
  have hview := mem_symbols_view_iff.mpr ⟨htarget, rfl⟩
  rw [Option.or_eq_none_iff, bestNamed_eq_none_iff, and_iff_right_iff_imp]
  intro hnone
  refine (childNamed_eq_none_iff hstore hnested hview).mpr fun symbol hdeclares ↦ ?_
  exact hnone symbol (hdeclares.names hstore hnested)

/-- Where nothing is imported that has the member, an owner in the calling file is looked for. -/
theorem meansDotted_of_not_imported
    (helse : ∀ target, store.ImportedAs file qualifier target →
      ∀ other, ¬store.Names target.file member other) :
    store.MeansDotted file qualifier member
      (Resolution.ownedTarget (store.view file) qualifier member) := by
  have hpart : IsLastPart qualifier (Resolution.lastPart qualifier) :=
    Resolution.isLastPart_iff.mpr rfl
  cases hfound : Resolution.ownedTarget (store.view file) qualifier member with
  | some symbolId =>
    obtain ⟨owner, symbol, hfirst, hdeclares, rfl⟩ :=
      (ownedTarget_eq_some_iff hstore hnested).mp hfound
    exact .owned helse hpart hfirst hdeclares
  | none => exact .unknown helse hpart ((ownedTarget_eq_none_iff hstore hnested).mp hfound)

theorem meansDotted_iff {result : Option Int} : store.MeansDotted file qualifier member result ↔
    (((Resolution.importedQualifier (store.view file) qualifier).bind store.symbol?).bind
      fun target ↦ (((store.view target.file).childNamed target.id member).or
        ((store.view target.file).bestNamed member)).map (·.id)).or
      (Resolution.ownedTarget (store.view file) qualifier member) = result := by
  have hfound := fun target ↦ @importedAs_iff store file qualifier hstore target
  generalize (Resolution.importedQualifier (store.view file) qualifier).bind store.symbol? =
    found at hfound ⊢
  -- what is imported has no such member exactly when the rule goes on with the calling file
  have helse_iff : (∀ target, store.ImportedAs file qualifier target →
      ∀ other, ¬store.Names target.file member other) ↔
        (found.bind fun target ↦ (((store.view target.file).childNamed target.id member).or
          ((store.view target.file).bestNamed member)).map (·.id)) = none := by
    rw [Option.bind_eq_none_iff]
    refine forall_congr' fun target ↦ ?_
    rw [← hfound]
    refine imp_congr_right fun himported ↦ ?_
    rw [Option.map_eq_none_iff, memberInFile_eq_none_iff hstore hnested himported.mem]
  have hchild : ∀ target, store.ImportedAs file qualifier target → ∀ symbol,
      (store.view target.file).childNamed target.id member = some symbol ↔
        store.Declares target member symbol := fun target himported symbol ↦
    childNamed_eq_some_iff hstore hnested (mem_symbols_view_iff.mpr ⟨himported.mem, rfl⟩)
  constructor
  · intro hmeans
    cases hmeans with
    | declared himported hdeclares =>
      rw [(hfound _).mp himported, Option.bind_some, (hchild _ himported _).mpr hdeclares]
      rfl
    | inItsFile himported hnone hbest =>
      have hview := mem_symbols_view_iff.mpr ⟨himported.mem, rfl⟩
      rw [(hfound _).mp himported, Option.bind_some,
        (childNamed_eq_none_iff hstore hnested hview).mpr hnone,
        (bestNamed_eq_some_iff hstore hnested).mpr hbest]
      rfl
    | owned helse hpart hfirst hdeclares =>
      obtain rfl := Resolution.isLastPart_iff.mp hpart
      rw [helse_iff.mp helse, Option.none_or]
      exact (ownedTarget_eq_some_iff hstore hnested).mpr ⟨_, _, hfirst, hdeclares, rfl⟩
    | unknown helse hpart hnone =>
      obtain rfl := Resolution.isLastPart_iff.mp hpart
      rw [helse_iff.mp helse, Option.none_or]
      exact (ownedTarget_eq_none_iff hstore hnested).mpr hnone
  · rintro rfl
    cases hmember : found.bind fun target ↦
        (((store.view target.file).childNamed target.id member).or
          ((store.view target.file).bestNamed member)).map (·.id) with
    | none =>
      rw [Option.none_or]
      exact meansDotted_of_not_imported hstore hnested (helse_iff.mpr hmember)
    | some symbolId =>
      rw [Option.some_or]
      obtain ⟨target, htarget, hmapped⟩ := Option.bind_eq_some_iff.mp hmember
      obtain ⟨symbol, hsymbol, rfl⟩ := Option.map_eq_some_iff.mp hmapped
      have himported := (hfound target).mpr htarget
      have hview := mem_symbols_view_iff.mpr ⟨himported.mem, rfl⟩
      rcases Option.or_eq_some_iff.mp hsymbol with hown | ⟨hnone, hbest⟩
      · exact .declared himported ((hchild target himported symbol).mp hown)
      · exact .inItsFile himported ((childNamed_eq_none_iff hstore hnested hview).mp hnone)
          ((bestNamed_eq_some_iff hstore hnested).mp hbest)

end Store

/-- What a call of a member is found to reach, where what is imported is of the calling project. -/
theorem Resolution.callSymbol_eq_of_qualified {store : Store} (hstore : store.WellFormed)
    (hsound : store.ResolutionSound) {call : Call} {qualifier member : String}
    (hshape : calleeShape call.callee = .dotted qualifier member) :
    callSymbol store call.projectId call =
      (((importedQualifier (store.view call.file) qualifier).bind store.symbol?).bind
        fun target ↦ (((store.view target.file).childNamed target.id member).or
          ((store.view target.file).bestNamed member)).map (·.id)).or
        (ownedTarget (store.view call.file) qualifier member) := by
  rw [callSymbol_of_qualified hshape, Option.bind_assoc]
  refine congrArg (Option.or · _) (Option.bind_congr fun targetId hqualifier ↦ ?_)
  rw [memberTarget_eq]
  refine Option.bind_congr fun target htarget ↦ ?_
  have himported : store.ImportedAs call.file qualifier target :=
    (Store.importedAs_iff hstore).mpr (Option.bind_eq_some_iff.mpr ⟨_, hqualifier, htarget⟩)
  have hproject : target.projectId = call.projectId := himported.projectId_eq hstore hsound
  rw [← hproject]
  rfl

/-- In every store that ordinary runs reach, a call of a member of anything but the receiver reaches
what its qualifier leads to: the imported symbol, the file of that, or a symbol of the calling
file. -/
theorem dottedCalls_storeAfterSteps (steps : List PipelineStep) {call : Call}
    (hcall : call ∈ (storeAfterSteps steps).calls) {qualifier member : String}
    (hcallee : call.callee = qualifier ++ "." ++ member) (hmember : '.' ∉ member.toList)
    (hreceiver : ∀ part, IsFirstPart call.callee part → part ∉ Resolution.selfReceivers) :
    call.Reaches steps fun store ↦ store.MeansDotted call.file qualifier member := by
  have hplain : Resolution.firstPart qualifier ∉ Resolution.selfReceivers := by
    refine hreceiver _ (Resolution.isFirstPart_iff.mpr ?_)
    rw [hcallee, Resolution.firstPart_qualified]
  have hshape : Resolution.calleeShape call.callee = .dotted qualifier member :=
    hcallee ▸ Resolution.calleeShape_append hplain hmember
  refine .of_found hcall fun others _ target ↦ ?_
  have hstore : (storeAfterSteps others).WellFormed := wellFormed_storeAfter _
  rw [Resolution.callSymbol_eq_of_qualified hstore
    (sound_and_holdsCaller_storeAfterSteps others).1 hshape]
  exact Store.meansDotted_iff hstore (nested_storeAfterSteps others)

/-- A function calls a method by the name of its class, and has the name of the method itself. -/
def calledOnClass : List PipelineStep :=
  [.ensureProject "demo" "file:///demo",
    .ingestFile 1 "app.py" "class C:\n  def f(s):\n    pass\ndef f():\n  C.f()\n"]

/-- The call means the method. -/
theorem meansDotted_calledOnClass :
    let store := storeAfterSteps calledOnClass
    ∃ call ∈ store.calls, call.callee = "C.f" ∧
      store.MeansDotted call.file "C" "f" (some 3) := by
  intro store
  let call : Call := ⟨1, 1, "app.py", 4, "C.f", 5, none⟩
  have hrows : let store := storeAfterSteps calledOnClass
      let view := store.storedView 1 "app.py"
      store.calls = [call] ∧ view.IsSorted ∧
        Resolution.importedQualifier view "C" = none ∧
        Resolution.ownedTarget view "C" "f" = some 3 := by
    decide +kernel
  obtain ⟨hcalls, hsorted, hqualifier, howned⟩ := hrows
  have hcall : call ∈ store.calls := hcalls ▸ List.mem_singleton_self call
  have hreaches := @dottedCalls_storeAfterSteps calledOnClass call hcall "C" "f" rfl (by decide)
    (fun part hpart ↦ Resolution.isFirstPart_iff.mp hpart ▸ by decide)
  refine ⟨call, hcall, rfl, (hreaches.found (some 3)).mpr ?_⟩
  have hshape : Resolution.calleeShape call.callee = .dotted "C" "f" := by decide
  rw [Resolution.callSymbol_of_qualified hshape, Store.fileView_of_isSorted hsorted,
    hqualifier, Option.bind_none, Option.none_or]
  exact howned

end SymbolGraph
