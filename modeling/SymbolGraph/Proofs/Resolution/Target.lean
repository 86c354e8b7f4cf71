import SymbolGraph.Proofs.Resolution.FileView
import SymbolGraph.Proofs.Resolution.Lookup
import SymbolGraph.Proofs.Text.Split

/-!
# What imports and calls are resolved to

An import is resolved to a symbol of its project and its name in a candidate file
(`importSymbol_cases`). A call is resolved to a symbol that the project declares under the last part
of the callee, or, when the callee has no dot, to what an import of the calling file stands for
(`callSymbol_cases`).
-/

set_option autoImplicit false
set_option relaxedAutoImplicit false

namespace SymbolGraph

/-! ### Imports -/

/-- The path lies in one of the files that the import may be taken from. -/
def Import.MayComeFrom (entry : Import) (filePath : String) : Prop :=
  ∃ language, Language.ofPath? entry.filePath = some language ∧
    ∃ candidate ∈ language.importCandidates entry.filePath entry.source entry.name,
      Path.matchesSuffix filePath candidate = true

namespace Resolution

variable {store : Store} {projectId : Int}

theorem exists_of_pickCandidate_eq_some {candidates : List String} {symbols : List (Int × String)}
    {symbolId : Int} (hfound : pickCandidate candidates symbols = some symbolId) :
    ∃ candidate ∈ candidates, ∃ filePath, (symbolId, filePath) ∈ symbols ∧
      Path.matchesSuffix filePath candidate = true := by
  obtain ⟨candidate, hcandidate, hsome⟩ := List.exists_of_findSome?_eq_some hfound
  obtain ⟨⟨id, filePath⟩, hsymbol, rfl⟩ := Option.map_eq_some_iff.mp hsome
  have hmatches := List.find?_some hsymbol
  exact ⟨candidate, hcandidate, filePath, List.mem_of_find?_eq_some hsymbol, hmatches⟩

/-- The symbol of an import has its name, and lies in a candidate file. -/
theorem importSymbol_cases {entry : Import} {symbolId : Int}
    (hfound : importSymbol store projectId entry = some symbolId) :
    ∃ symbol ∈ store.symbols, symbol.id = symbolId ∧ symbol.projectId = projectId ∧
      symbol.name = entry.name ∧ entry.MayComeFrom symbol.filePath := by
  unfold importSymbol importTarget at hfound
  split at hfound
  · cases hfound
  · rename_i language hlanguage
    obtain ⟨candidate, hcandidate, filePath, hmem, hmatches⟩ :=
      exists_of_pickCandidate_eq_some hfound
    obtain ⟨symbol, hsymbol, heq⟩ := List.mem_map.mp hmem
    obtain ⟨rfl, rfl⟩ := Prod.mk.inj heq
    obtain ⟨hstored, hproject, hname⟩ := Store.mem_symbolsNamed_iff.mp hsymbol
    exact ⟨symbol, hstored, rfl, hproject, hname, language, hlanguage, candidate, hcandidate,
      hmatches⟩

/-! ### Callees -/

/-- The part of a callee after its last dot, or all of it. -/
def IsLastPart (callee part : String) : Prop :=
  (Text.split '.' callee).getLast? = some part

/-- The part of a callee before its first dot, or all of it. -/
def IsFirstPart (callee part : String) : Prop :=
  (Text.split '.' callee).head? = some part

theorem isFirstPart_iff {callee part : String} :
    IsFirstPart callee part ↔ part = firstPart callee := by
  unfold IsFirstPart firstPart Text.splitFirst? Text.split
  cases hcut : Text.cutFirst '.' callee.toList with
  | none =>
    rw [Text.pieces_of_not_mem (Text.cutFirst_eq_none_iff.mp hcut)]
    simp [eq_comm]
  | some cut =>
    obtain ⟨before, after⟩ := cut
    obtain ⟨hcallee, hnone⟩ := Text.eq_of_cutFirst_eq_some hcut
    rw [hcallee, Text.pieces_append, Text.pieces_of_not_mem hnone]
    simp [eq_comm]

theorem isLastPart_iff {callee part : String} :
    IsLastPart callee part ↔ part = lastPart callee := by
  unfold IsLastPart lastPart Text.splitLast?
  cases hcut : Text.cutLast '.' callee.toList with
  | none =>
    rw [Text.split, Text.pieces_of_not_mem (Text.cutLast_eq_none_iff.mp hcut)]
    simp [eq_comm]
  | some cut =>
    rw [Text.getLast?_split_of_cutLast hcut]
    simp [eq_comm]

theorem isLastPart_self {callee : String} (hnone : '.' ∉ callee.toList) :
    IsLastPart callee callee := by
  simp [IsLastPart, Text.split, Text.pieces_of_not_mem hnone]

/-- A callee without a dot is bare. -/
theorem calleeShape_bare {callee name : String} (hshape : calleeShape callee = .bare name) :
    name = callee ∧ '.' ∉ callee.toList := by
  unfold calleeShape Text.splitFirst? Text.splitLast? at hshape
  cases hfirst : Text.cutFirst '.' callee.toList with
  | none =>
    rw [hfirst] at hshape
    cases hshape
    exact ⟨rfl, Text.cutFirst_eq_none_iff.mp hfirst⟩
  | some first =>
    cases hlast : Text.cutLast '.' callee.toList with
    | none =>
      rw [hfirst, hlast] at hshape
      cases hshape
      exact ⟨rfl, Text.cutLast_eq_none_iff.mp hlast⟩
    | some last =>
      rw [hfirst, hlast] at hshape
      dsimp only [Option.map_some] at hshape
      split at hshape
      · cases hshape
      · cases hshape

theorem calleeShape_of_not_mem {callee : String} (hnone : '.' ∉ callee.toList) :
    calleeShape callee = .bare callee := by
  unfold calleeShape Text.splitFirst?
  rw [Text.cutFirst_eq_none_iff.mpr hnone]
  rfl

theorem calleeShape_onSelf {callee member : String} (hshape : calleeShape callee = .onSelf member)
    (hnone : '.' ∉ member.toList) : IsLastPart callee member := by
  unfold calleeShape at hshape
  split at hshape
  · rename_i receiver rest qualifier last hfirst hlast
    split at hshape
    · cases hshape
      obtain ⟨⟨before, after⟩, hcut, heq⟩ := Option.map_eq_some_iff.mp hfirst
      obtain ⟨rfl, rfl⟩ := Prod.mk.inj heq
      obtain ⟨hcallee, -⟩ := Text.eq_of_cutFirst_eq_some hcut
      rw [String.toList_ofList] at hnone
      rw [IsLastPart, Text.split, hcallee, List.getLast?_map, Text.getLast?_pieces_append,
        Text.pieces_of_not_mem hnone]
      rfl
    · cases hshape
  · cases hshape

theorem calleeShape_dotted {callee qualifier member : String}
    (hshape : calleeShape callee = .dotted qualifier member) : IsLastPart callee member := by
  unfold calleeShape at hshape
  split at hshape
  · rename_i receiver rest qualifier last hfirst hlast
    split at hshape
    · cases hshape
    · cases hshape
      obtain ⟨⟨before, after⟩, hcut, heq⟩ := Option.map_eq_some_iff.mp hlast
      obtain ⟨rfl, rfl⟩ := Prod.mk.inj heq
      exact Text.getLast?_split_of_cutLast hcut
  · cases hshape

/-- The texts of a qualified name are those of its parts with the dot between them. -/
theorem toList_qualified (qualifier member : String) :
    (qualifier ++ "." ++ member).toList = qualifier.toList ++ '.' :: member.toList := by
  rw [String.toList_append, String.toList_append, List.append_assoc]
  rfl

/-- A qualified name begins like its qualifier. -/
theorem firstPart_qualified (qualifier member : String) :
    firstPart (qualifier ++ "." ++ member) = firstPart qualifier := by
  refine (isFirstPart_iff.mp ?_).symm
  have hqualifier : IsFirstPart qualifier (firstPart qualifier) := isFirstPart_iff.mpr rfl
  rw [IsFirstPart, Text.split, List.head?_map] at hqualifier ⊢
  rw [toList_qualified, Text.pieces_append, List.head?_append, Option.map_or, hqualifier,
    Option.some_or]

/-- A callee that begins with a receiver is cut at its first dot. -/
theorem calleeShape_of_receiver {receiver member : String} (hreceiver : receiver ∈ selfReceivers) :
    calleeShape (receiver ++ "." ++ member) = .onSelf member := by
  have hplain : ∀ name ∈ selfReceivers, '.' ∉ name.toList := by decide
  have hfirst : Text.splitFirst? '.' (receiver ++ "." ++ member) = some (receiver, member) := by
    rw [Text.splitFirst?, toList_qualified, Text.cutFirst_append (hplain receiver hreceiver)]
    simp
  have hlast : ∃ cut, Text.splitLast? '.' (receiver ++ "." ++ member) = some cut := by
    refine Option.ne_none_iff_exists'.mp fun hnone ↦ ?_
    rw [Text.splitLast?, Option.map_eq_none_iff, Text.cutLast_eq_none_iff,
      toList_qualified] at hnone
    exact hnone (List.mem_append_right _ List.mem_cons_self)
  obtain ⟨cut, hlast⟩ := hlast
  unfold calleeShape
  rw [hfirst, hlast]
  exact if_pos (List.contains_iff_mem.mpr hreceiver)

/-- A callee that begins with no receiver of its own is cut at its last dot. -/
theorem calleeShape_append {qualifier member : String}
    (hreceiver : firstPart qualifier ∉ selfReceivers) (hmember : '.' ∉ member.toList) :
    calleeShape (qualifier ++ "." ++ member) = .dotted qualifier member := by
  have hlast : Text.splitLast? '.' (qualifier ++ "." ++ member) = some (qualifier, member) := by
    rw [Text.splitLast?, toList_qualified, Text.cutLast_append hmember]
    simp
  have hfirst : ∃ rest, Text.splitFirst? '.' (qualifier ++ "." ++ member) =
      some (firstPart qualifier, rest) := by
    unfold firstPart Text.splitFirst?
    rw [toList_qualified]
    cases hcut : Text.cutFirst '.' qualifier.toList with
    | none =>
      rw [Text.cutFirst_append (Text.cutFirst_eq_none_iff.mp hcut)]
      exact ⟨member, by simp⟩
    | some cut =>
      obtain ⟨before, after⟩ := cut
      obtain ⟨hqualifier, hnone⟩ := Text.eq_of_cutFirst_eq_some hcut
      rw [hqualifier, List.append_assoc, List.cons_append, Text.cutFirst_append hnone]
      exact ⟨_, rfl⟩
  obtain ⟨rest, hfirst⟩ := hfirst
  unfold calleeShape
  rw [hfirst, hlast]
  exact if_neg fun hcontains ↦ hreceiver (List.contains_iff_mem.mp hcontains)

/-! ### Calls -/

/-- The id is that of a stored symbol of the project with the name, which is no module or lies
inside another symbol. -/
def IsDeclaredIn (store : Store) (projectId : Int) (name : String) (symbolId : Int) : Prop :=
  ∃ symbol ∈ store.symbols, symbol.id = symbolId ∧ symbol.projectId = projectId ∧
    symbol.name = name ∧ (symbol.parentId ≠ none ∨ symbol.kind ≠ .module)

/-- A symbol that a name means in a file is declared in the project under the name. -/
theorem isDeclaredIn_of_mem_fileView {filePath name : String} {symbol : Symbol}
    (hmem : symbol ∈ (store.fileView projectId filePath).symbols) (hname : symbol.name = name)
    (hplace : symbol.parentId ≠ none ∨ symbol.kind ≠ .module) :
    IsDeclaredIn store projectId name symbol.id := by
  obtain ⟨hstored, hproject, -⟩ := Store.mem_symbols_fileView_iff.mp hmem
  exact ⟨symbol, hstored, rfl, hproject, hname, hplace⟩

theorem isDeclaredIn_of_childNamed {filePath name : String} {parentId : Int} {symbol : Symbol}
    (hfound : (store.fileView projectId filePath).childNamed parentId name = some symbol) :
    IsDeclaredIn store projectId name symbol.id := by
  obtain ⟨hmem, hparent, hname⟩ := FileView.mem_of_childNamed_eq_some hfound
  exact isDeclaredIn_of_mem_fileView hmem hname (Or.inl (hparent ▸ Option.some_ne_none parentId))

theorem isDeclaredIn_of_bestNamed {filePath name : String} {symbol : Symbol}
    (hfound : (store.fileView projectId filePath).bestNamed name = some symbol) :
    IsDeclaredIn store projectId name symbol.id := by
  obtain ⟨hmem, hname, hkind⟩ := FileView.mem_of_bestNamed_eq_some hfound
  exact isDeclaredIn_of_mem_fileView hmem hname (Or.inr hkind)

theorem isDeclaredIn_of_scopedNamed {filePath name : String} {sourceId : Int} {symbol : Symbol}
    (hfound : (store.fileView projectId filePath).scopedNamed name sourceId = some symbol) :
    IsDeclaredIn store projectId name symbol.id := by
  obtain ⟨hmem, hname⟩ := FileView.mem_of_scopedNamed_eq_some hfound
  refine isDeclaredIn_of_mem_fileView hmem hname ?_
  refine (FileView.place_of_scopedNamed_eq_some hfound).imp ?_ And.left
  rintro ⟨scope, -, -, hparent⟩
  exact hparent ▸ Option.some_ne_none scope.id

/-- A member of the receiver has the member's name. -/
theorem selfTarget_cases {filePath member : String} {sourceId symbolId : Int}
    (hfound : selfTarget (store.fileView projectId filePath) sourceId member = some symbolId) :
    '.' ∉ member.toList ∧ IsDeclaredIn store projectId member symbolId := by
  unfold selfTarget at hfound
  split at hfound
  · cases hfound
  · rename_i hnone
    refine ⟨fun hdot ↦ hnone (List.contains_iff_mem.mpr hdot), ?_⟩
    obtain ⟨symbol, hsymbol, rfl⟩ := Option.map_eq_some_iff.mp hfound
    rcases Option.or_eq_some_iff.mp hsymbol with hmember | ⟨-, hnamed⟩
    · obtain ⟨owner, -, hchild⟩ := Option.bind_eq_some_iff.mp hmember
      exact isDeclaredIn_of_childNamed hchild
    · exact isDeclaredIn_of_bestNamed hnamed

/-- A member that a file declares under a qualifier has the member's name. -/
theorem ownedTarget_cases {filePath qualifier member : String} {symbolId : Int}
    (hfound : ownedTarget (store.fileView projectId filePath) qualifier member = some symbolId) :
    IsDeclaredIn store projectId member symbolId := by
  obtain ⟨symbol, hsymbol, rfl⟩ := Option.map_eq_some_iff.mp hfound
  obtain ⟨owner, -, hchild⟩ := List.exists_of_findSome?_eq_some hsymbol
  exact isDeclaredIn_of_childNamed hchild

/-- A member of an imported symbol is looked up inside it, and then in its file. -/
theorem memberTarget_eq {targetId : Int} {member : String} :
    (memberTarget (directLookup store projectId) targetId member ()).1 =
      (store.symbol? targetId).bind fun target ↦
        (((store.fileView projectId target.filePath).childNamed target.id member).or
          ((store.fileView projectId target.filePath).bestNamed member)).map (·.id) := by
  unfold memberTarget directLookup
  dsimp only
  cases store.symbol? targetId with
  | none => rfl
  | some target => rfl

/-- A member of an imported symbol has the member's name, whatever project that symbol is of. -/
theorem memberTarget_cases {targetId : Int} {member : String} {symbolId : Int}
    (hfound : (memberTarget (directLookup store projectId) targetId member ()).1 = some symbolId) :
    IsDeclaredIn store projectId member symbolId := by
  rw [memberTarget_eq] at hfound
  obtain ⟨target, -, hnamed⟩ := Option.bind_eq_some_iff.mp hfound
  obtain ⟨symbol, hsymbol, rfl⟩ := Option.map_eq_some_iff.mp hnamed
  rcases Option.or_eq_some_iff.mp hsymbol with hchild | ⟨-, hbest⟩
  · exact isDeclaredIn_of_childNamed hchild
  · exact isDeclaredIn_of_bestNamed hbest

/-- A bare name is looked up in the scopes around the call, and then among the imports. -/
theorem callSymbol_of_not_mem {call : Call} (hnone : '.' ∉ call.callee.toList) :
    callSymbol store projectId call =
      bareTarget (store.fileView projectId call.filePath) call.callerId call.callee := by
  unfold callSymbol callTarget
  rw [calleeShape_of_not_mem hnone]
  rfl

/-- A member of the receiver is looked up inside the symbol around the call. -/
theorem callSymbol_of_onSelf {call : Call} {member : String}
    (hshape : calleeShape call.callee = .onSelf member) : callSymbol store projectId call =
      selfTarget (store.fileView projectId call.filePath) call.callerId member := by
  unfold callSymbol callTarget
  rw [hshape]
  rfl

/-- A member of anything else is looked up in what the qualifier was imported as, and then in the
calling file. -/
theorem callSymbol_of_qualified {call : Call} {qualifier member : String}
    (hshape : calleeShape call.callee = .dotted qualifier member) :
    callSymbol store projectId call =
      ((importedQualifier (store.fileView projectId call.filePath) qualifier).bind fun targetId ↦
        (memberTarget (directLookup store projectId) targetId member ()).1).or
      (ownedTarget (store.fileView projectId call.filePath) qualifier member) := by
  have hfile : (directLookup store projectId).file call.filePath () =
      (store.fileView projectId call.filePath, ()) := rfl
  unfold callSymbol callTarget
  rw [hshape, hfile]
  dsimp only
  cases importedQualifier (store.fileView projectId call.filePath) qualifier with
  | none => rfl
  | some targetId =>
    rw [Option.bind_some]
    dsimp only
    split
    · rename_i found last hmember
      rw [hmember, Option.some_or]
    · rename_i last hmember
      rw [hmember, Option.none_or]

/-- A call that is qualified by an imported symbol reaches the member declared inside it. -/
theorem callSymbol_of_dotted {call : Call} {qualifier member : String} {owner symbol : Symbol}
    (hshape : calleeShape call.callee = .dotted qualifier member)
    (hqualifier : importedQualifier (store.fileView projectId call.filePath) qualifier =
      some owner.id)
    (howner : store.symbol? owner.id = some owner)
    (hmember : (store.fileView projectId owner.filePath).childNamed owner.id member =
      some symbol) : callSymbol store projectId call = some symbol.id := by
  rw [callSymbol_of_qualified hshape, hqualifier, Option.bind_some, memberTarget_eq, howner,
    Option.bind_some, hmember]
  rfl

/-- The symbol of a call is called like the last part of the callee, or it is imported under the
whole callee. -/
theorem callSymbol_cases {call : Call} {symbolId : Int}
    (hfound : callSymbol store projectId call = some symbolId) :
    (∃ name, IsLastPart call.callee name ∧ IsDeclaredIn store projectId name symbolId) ∨
    ('.' ∉ call.callee.toList ∧ ∃ entry ∈ store.imports, entry.projectId = projectId ∧
      entry.filePath = call.filePath ∧ entry.isResolved = true ∧
      entry.localName = call.callee ∧ entry.target = some symbolId) := by
  cases hshape : calleeShape call.callee with
  | bare name =>
    obtain ⟨rfl, hnone⟩ := calleeShape_bare hshape
    rw [callSymbol_of_not_mem hnone] at hfound
    rcases Option.or_eq_some_iff.mp hfound with hscoped | ⟨-, himported⟩
    · obtain ⟨symbol, hsymbol, rfl⟩ := Option.map_eq_some_iff.mp hscoped
      exact Or.inl ⟨_, isLastPart_self hnone, isDeclaredIn_of_scopedNamed hsymbol⟩
    · obtain ⟨entry, hentry, hresolved, hlocal, htarget⟩ :=
        FileView.exists_import_of_resolvedImport_eq_some himported
      obtain ⟨hstored, hproject, hfile⟩ := Store.mem_imports_fileView_iff.mp hentry
      exact Or.inr ⟨hnone, entry, hstored, hproject, hfile, hresolved, hlocal, htarget⟩
  | onSelf member =>
    rw [callSymbol_of_onSelf hshape] at hfound
    obtain ⟨hnone, hnamed⟩ := selfTarget_cases hfound
    exact Or.inl ⟨member, calleeShape_onSelf hshape hnone, hnamed⟩
  | dotted qualifier member =>
    rw [callSymbol_of_qualified hshape] at hfound
    refine Or.inl ⟨member, calleeShape_dotted hshape, ?_⟩
    rcases Option.or_eq_some_iff.mp hfound with himported | ⟨-, howned⟩
    · obtain ⟨targetId, -, hmember⟩ := Option.bind_eq_some_iff.mp himported
      exact memberTarget_cases hmember
    · exact ownedTarget_cases howned

end Resolution

end SymbolGraph
