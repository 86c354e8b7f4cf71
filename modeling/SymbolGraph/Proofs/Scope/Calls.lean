import SymbolGraph.Proofs.Pipeline.CallResolution
import SymbolGraph.Proofs.Pipeline.CallTargets
import SymbolGraph.Proofs.Pipeline.Isolation
import SymbolGraph.Proofs.Scope.Names

/-!
# What calls mean

What a call reaches follows from how the callee is written. A bare name means what is in scope, and
else what an import brings in (`Store.MeansBare`). A member of the receiver means what the nearest
class declares, and else the best symbol of its name in the file (`Store.MeansOnSelf`).

A meaning is said without the look-ups and has one result. In every store that ordinary runs reach,
this is what the look-ups find and what linking settles the call with (`Call.Reaches`,
`bareNames_storeAfterSteps`, `selfCalls_storeAfterSteps`).
-/

set_option autoImplicit false
set_option relaxedAutoImplicit false

namespace SymbolGraph

/-- In the store that the steps lead to, the call is found to reach what it means there. If it is
open, linking its project settles it with what it means in the linked store, where the imports are
settled too. -/
structure Call.Reaches (steps : List PipelineStep) (call : Call)
    (means : Store → Option Int → Prop) : Prop where
  found : ∀ target, means (storeAfterSteps steps) target ↔
    Resolution.callSymbol (storeAfterSteps steps) call.projectId call = target
  linked : call.target = none → ∀ batchSize, 0 < batchSize →
    let later := storeAfterSteps (steps ++ [.link call.projectId batchSize])
    ∃ target, { call with target } ∈ later.calls ∧ ∀ other, means later other ↔ other = target

/-- A meaning that agrees with what is found, in all stores with the same symbols, is what the call
reaches. -/
theorem Call.Reaches.of_found {steps : List PipelineStep} {call : Call}
    {means : Store → Option Int → Prop} (hcall : call ∈ (storeAfterSteps steps).calls)
    (hfound : ∀ others, (storeAfterSteps others).symbols = (storeAfterSteps steps).symbols →
      ∀ target, means (storeAfterSteps others) target ↔
        Resolution.callSymbol (storeAfterSteps others) call.projectId call = target) :
    call.Reaches steps means where
  found := hfound steps rfl
  linked := by
    intro hopen batchSize hsize later
    have hlater : later = Resolution.linked (storeAfterSteps steps) call.projectId batchSize :=
      storeAfterSteps_link steps call.projectId batchSize
    refine ⟨Resolution.callSymbol later call.projectId call, ?_, fun other ↦ ?_⟩
    · rw [hlater, Resolution.linked, Resolution.linkedCalls_eq hsize]
      exact List.mem_map.mpr ⟨call, hcall, if_pos ⟨rfl, hopen⟩⟩
    · have hsymbols : later.symbols = (storeAfterSteps steps).symbols := by
        rw [hlater]
        rfl
      exact (hfound _ hsymbols other).trans eq_comm

/-- In every store that ordinary runs reach, symbols nest. -/
theorem nested_storeAfterSteps (steps : List PipelineStep) : (storeAfterSteps steps).Nested :=
  (nested_wellTargeted_storeAfterSteps steps).1

/-! ### Bare names -/

namespace Store

/-- What a bare name means in a symbol: what is in scope there, or else what the first import of the
file that brings in the name stands for. -/
inductive MeansBare (store : Store) (source : Symbol) (name : String) : Option Int → Prop
  | declared {symbol : Symbol} (hscope : store.InScope source name (some symbol)) :
      MeansBare store source name (some symbol.id)
  | imported {entry : Import} {symbolId : Int} (hscope : store.InScope source name none)
      (hfirst : store.BringsInFirst source.file name entry)
      (htarget : entry.target = some symbolId) : MeansBare store source name (some symbolId)
  | unknown (hscope : store.InScope source name none)
      (hnone : ∀ entry, ¬store.BringsIn source.file name entry) : MeansBare store source name none

/-- Looking up a bare name follows lexical scope, and what is found does not lie in a class. -/
structure FollowsScope (store : Store) : Prop where
  scope : ∀ source ∈ store.symbols, ∀ name found, store.InScope source name found ↔
    (store.view source.file).scopedNamed name source.id = found
  not_member : ∀ source ∈ store.symbols, ∀ name symbol,
    store.InScope source name (some symbol) → ¬store.IsMember symbol

variable {store : Store} (hstore : store.WellFormed) (hnested : store.Nested)

include hstore hnested

theorem followsScope : store.FollowsScope where
  scope := fun _ hsource _ _ ↦ inScope_iff hstore hnested hsource
  not_member := by
    rintro source hsource name symbol hscope ⟨owner, howner, hparent, hclass⟩
    have hsame : ∀ other ∈ store.symbols, symbol.parentId = some other.id → other = owner := by
      intro other hother hotherParent
      have hid := Option.some.inj (hotherParent.symm.trans hparent)
      exact hstore.symbols.eq_of_id_eq hother howner hid
    cases hscope with
    | inside hnearest hdeclares =>
      obtain rfl := hsame _ hdeclares.parent.1 hdeclares.parent.2
      rcases hnearest.holds.1 with hfunction | hmethod
      · cases hfunction.symm.trans hclass
      · cases hmethod.symm.trans hclass
    | atTop hnone htop =>
      obtain ⟨root, hroot, -, hkind, hrootParent⟩ := htop.top
      obtain rfl := hsame root hroot hrootParent
      cases hkind.symm.trans hclass

theorem meansBare_iff {source : Symbol} (hsource : source ∈ store.symbols) {name : String}
    {target : Option Int} : store.MeansBare source name target ↔
      Resolution.bareTarget (store.view source.file) source.id name = target := by
  have hscoped := fun found ↦ @inScope_iff store name hstore hnested source hsource found
  unfold Resolution.bareTarget
  constructor
  · intro hmeans
    cases hmeans with
    | declared hscope =>
      rw [(hscoped _).mp hscope]
      rfl
    | imported hscope hfirst htarget =>
      rw [(hscoped _).mp hscope, Option.map_none, Option.none_or]
      exact (resolvedImport_eq_some_iff hstore).mpr ⟨_, hfirst, htarget⟩
    | unknown hscope hnone =>
      rw [(hscoped _).mp hscope, Option.map_none, Option.none_or]
      exact (resolvedImport_eq_none_iff hstore).mpr hnone
  · rintro rfl
    cases hfound : (store.view source.file).scopedNamed name source.id with
    | some symbol => exact .declared ((hscoped _).mpr hfound)
    | none =>
      have hscope := (hscoped none).mpr hfound
      rw [Option.map_none, Option.none_or]
      cases himport : (store.view source.file).resolvedImport name with
      | some symbolId =>
        obtain ⟨entry, hfirst, htarget⟩ := (resolvedImport_eq_some_iff hstore).mp himport
        exact .imported hscope hfirst htarget
      | none => exact .unknown hscope ((resolvedImport_eq_none_iff hstore).mp himport)

end Store

/-- The view of the calling file is that of the file of the symbol around the call. -/
theorem Call.IsFrom.fileView_eq {call : Call} {source : Symbol} (hfrom : call.IsFrom source)
    (store : Store) : store.fileView call.projectId call.filePath = store.view source.file :=
  congrArg store.view hfrom.1

/-- In every store that ordinary runs reach, bare names follow lexical scope at any depth. What is
in scope is declared by the innermost function or method around that declares the name, or else
directly by the module, and never by a class; and a bare call reaches what is in scope for it, or
else what the first resolved import of its name stands for. -/
theorem bareNames_storeAfterSteps (steps : List PipelineStep) :
    (storeAfterSteps steps).FollowsScope ∧
      ∀ call ∈ (storeAfterSteps steps).calls, '.' ∉ call.callee.toList →
        ∃ source ∈ (storeAfterSteps steps).symbols, call.IsFrom source ∧
          call.Reaches steps fun store ↦ store.MeansBare source call.callee := by
  refine ⟨Store.followsScope (wellFormed_storeAfter _) (nested_storeAfterSteps steps), ?_⟩
  intro call hcall hbare
  obtain ⟨source, hsource, hfrom⟩ := (sound_and_holdsCaller_storeAfterSteps steps).2 call hcall
  refine ⟨source, hsource, hfrom, .of_found hcall fun others hsymbols target ↦ ?_⟩
  rw [Resolution.callSymbol_of_not_mem hbare, hfrom.fileView_eq, hfrom.2]
  exact Store.meansBare_iff (wellFormed_storeAfter _) (nested_storeAfterSteps others)
    (hsymbols ▸ hsource)

/-- A method calls the name that it has in its class, and that a function has in the module. -/
def calledMethodName : List PipelineStep :=
  [.ensureProject "demo" "file:///demo",
    .ingestFile 1 "app.py" "class C:\n  def f(s):\n    f()\ndef f():\n  pass\n"]

/-- The bare call means the function. -/
theorem meansBare_calledMethodName :
    let store := storeAfterSteps calledMethodName
    ∃ source ∈ store.symbols, source.kind = .method ∧ store.MeansBare source "f" (some 4) := by
  intro store
  let call : Call := ⟨1, 1, "app.py", 3, "f", 3, none⟩
  have hrows : let store := storeAfterSteps calledMethodName
      let view := store.storedView 1 "app.py"
      store.calls = [call] ∧ view.IsSorted ∧
        Resolution.bareTarget view 3 "f" = some 4 ∧
        ∀ source ∈ store.symbols, source.id = 3 → source.kind = .method := by
    decide +kernel
  obtain ⟨hcalls, hsorted, hfound, hkind⟩ := hrows
  obtain ⟨source, hsource, hfrom, hreaches⟩ := (bareNames_storeAfterSteps calledMethodName).2 call
    (hcalls ▸ List.mem_singleton_self call) (by decide)
  refine ⟨source, hsource, hkind source hsource hfrom.2.symm, (hreaches.found (some 4)).mpr ?_⟩
  rw [Resolution.callSymbol_of_not_mem (by decide), Store.fileView_of_isSorted hsorted]
  exact hfound

/-! ### Members of the receiver -/

namespace Store

/-- What a member of the receiver means in a symbol: what the nearest class declares, or else the
best symbol of its name in the file. Members of members are unknown. -/
inductive MeansOnSelf (store : Store) (source : Symbol) (member : String) : Option Int → Prop
  | chained (hdot : '.' ∈ member.toList) : MeansOnSelf store source member none
  | declared {owner symbol : Symbol} (hplain : '.' ∉ member.toList)
      (hnearest : store.IsNearest (fun outer ↦ outer.kind = .classType) source owner)
      (hdeclares : store.Declares owner member symbol) :
      MeansOnSelf store source member (some symbol.id)
  | elsewhere {symbol : Symbol} (hplain : '.' ∉ member.toList)
      (hnone : ∀ owner, store.IsNearest (fun outer ↦ outer.kind = .classType) source owner →
        ∀ other, ¬store.Declares owner member other)
      (hbest : store.IsBest source.file member symbol) :
      MeansOnSelf store source member (some symbol.id)
  | unknown (hplain : '.' ∉ member.toList)
      (hnone : ∀ symbol, ¬store.Names source.file member symbol) :
      MeansOnSelf store source member none

variable {store : Store} (hstore : store.WellFormed) (hnested : store.Nested)

include hstore hnested

variable {source : Symbol} (hsource : source ∈ store.symbols) {member : String}

include hsource

theorem memberOfClass_eq_some_iff {symbol : Symbol} :
    (((store.view source.file).enclosingClass source.id).bind fun owner ↦
      (store.view source.file).childNamed owner.id member) = some symbol ↔
    ∃ owner, store.IsNearest (fun outer ↦ outer.kind = .classType) source owner ∧
      store.Declares owner member symbol := by
  rw [Option.bind_eq_some_iff]
  refine exists_congr fun owner ↦ ?_
  rw [enclosingClass_eq_some_iff hstore hnested hsource]
  refine and_congr_right fun hnearest ↦ ?_
  exact childNamed_eq_some_iff hstore hnested
    (mem_symbols_view_of_isAround hstore hnested hsource hnearest.around)

theorem memberOfClass_eq_none_iff :
    (((store.view source.file).enclosingClass source.id).bind fun owner ↦
      (store.view source.file).childNamed owner.id member) = none ↔
    ∀ owner, store.IsNearest (fun outer ↦ outer.kind = .classType) source owner →
      ∀ symbol, ¬store.Declares owner member symbol := by
  rw [eq_none_iff_of_eq_some_iff fun _ ↦ memberOfClass_eq_some_iff hstore hnested hsource]
  simp only [not_exists, not_and]
  exact forall_comm.trans (forall_congr' fun owner ↦ forall_comm)

theorem meansOnSelf_iff {target : Option Int} : store.MeansOnSelf source member target ↔
    Resolution.selfTarget (store.view source.file) source.id member = target := by
  have hdeclared := fun symbol ↦
    @memberOfClass_eq_some_iff store hstore hnested source hsource member symbol
  have hundeclared := @memberOfClass_eq_none_iff store hstore hnested source hsource member
  unfold Resolution.selfTarget
  constructor
  · intro hmeans
    cases hmeans with
    | chained hdot => exact if_pos (List.contains_iff_mem.mpr hdot)
    | declared hplain hnearest hmember =>
      rw [if_neg (fun hdot ↦ hplain (List.contains_iff_mem.mp hdot)),
        (hdeclared _).mpr ⟨_, hnearest, hmember⟩]
      rfl
    | elsewhere hplain hnone hbest =>
      rw [if_neg (fun hdot ↦ hplain (List.contains_iff_mem.mp hdot)), hundeclared.mpr hnone,
        (bestNamed_eq_some_iff hstore hnested).mpr hbest]
      rfl
    | unknown hplain hnone =>
      have hunnamed := hundeclared.mpr fun owner hnearest symbol hmember ↦ by
        have hfile := (mem_symbols_view_iff.mp
          (mem_symbols_view_of_isAround hstore hnested hsource hnearest.around)).2
        exact hnone symbol (hfile ▸ hmember.names hstore hnested)
      rw [if_neg (fun hdot ↦ hplain (List.contains_iff_mem.mp hdot)), hunnamed,
        bestNamed_eq_none_iff.mpr hnone]
      rfl
  · rintro rfl
    by_cases hdot : '.' ∈ member.toList
    · rw [if_pos (List.contains_iff_mem.mpr hdot)]
      exact .chained hdot
    · rw [if_neg (fun hcontains ↦ hdot (List.contains_iff_mem.mp hcontains))]
      cases hclass : ((store.view source.file).enclosingClass source.id).bind fun owner ↦
          (store.view source.file).childNamed owner.id member with
      | some symbol =>
        obtain ⟨owner, hnearest, hmember⟩ := (hdeclared symbol).mp hclass
        exact .declared hdot hnearest hmember
      | none =>
        cases hbest : (store.view source.file).bestNamed member with
        | some symbol =>
          exact .elsewhere hdot (hundeclared.mp hclass)
            ((bestNamed_eq_some_iff hstore hnested).mp hbest)
        | none => exact .unknown hdot (bestNamed_eq_none_iff.mp hbest)

end Store

/-- In every store that ordinary runs reach, a call of a member of `self`, `cls`, `this` or `super`
reaches what the nearest class around declares under the name, or else the top-level symbol of the
name, or else the earliest one of the file; whatever the file imports. -/
theorem selfCalls_storeAfterSteps (steps : List PipelineStep) {call : Call}
    (hcall : call ∈ (storeAfterSteps steps).calls) {receiver member : String}
    (hreceiver : receiver ∈ Resolution.selfReceivers)
    (hcallee : call.callee = receiver ++ "." ++ member) :
    ∃ source ∈ (storeAfterSteps steps).symbols, call.IsFrom source ∧
      call.Reaches steps fun store ↦ store.MeansOnSelf source member := by
  obtain ⟨source, hsource, hfrom⟩ := (sound_and_holdsCaller_storeAfterSteps steps).2 call hcall
  have hshape : Resolution.calleeShape call.callee = .onSelf member :=
    hcallee ▸ Resolution.calleeShape_of_receiver hreceiver
  refine ⟨source, hsource, hfrom, .of_found hcall fun others hsymbols target ↦ ?_⟩
  rw [Resolution.callSymbol_of_onSelf hshape, hfrom.fileView_eq, hfrom.2]
  exact Store.meansOnSelf_iff (wellFormed_storeAfter _) (nested_storeAfterSteps others)
    (hsymbols ▸ hsource)

/-- A function inside a method calls the method on the receiver, and a function of the module has
its name. -/
def calledOnSelf : List PipelineStep :=
  [.ensureProject "demo" "file:///demo",
    .ingestFile 1 "app.py"
      "class C:\n  def f(self):\n    def g():\n      self.f()\ndef f():\n  pass\n"]

/-- The call means the method. -/
theorem meansOnSelf_calledOnSelf :
    let store := storeAfterSteps calledOnSelf
    ∃ source ∈ store.symbols, source.kind = .function ∧
      store.MeansOnSelf source "f" (some 3) := by
  intro store
  let call : Call := ⟨1, 1, "app.py", 4, "self.f", 4, none⟩
  have hrows : let store := storeAfterSteps calledOnSelf
      let view := store.storedView 1 "app.py"
      store.calls = [call] ∧ view.IsSorted ∧
        Resolution.selfTarget view 4 "f" = some 3 ∧
        ∀ source ∈ store.symbols, source.id = 4 → source.kind = .function := by
    decide +kernel
  obtain ⟨hcalls, hsorted, hfound, hkind⟩ := hrows
  obtain ⟨source, hsource, hfrom, hreaches⟩ := @selfCalls_storeAfterSteps calledOnSelf call
    (hcalls ▸ List.mem_singleton_self call) "self" "f" (by decide) rfl
  refine ⟨source, hsource, hkind source hsource hfrom.2.symm, (hreaches.found (some 3)).mpr ?_⟩
  have hshape : Resolution.calleeShape call.callee = .onSelf "f" := by decide
  rw [Resolution.callSymbol_of_onSelf hshape, Store.fileView_of_isSorted hsorted]
  exact hfound

end SymbolGraph
