import Mathlib.Logic.Relation
import SymbolGraph.Proofs.Extraction.Nesting
import SymbolGraph.Proofs.Ingest.Scope

/-!
# Which rows the declarations of a file get

The ids that tags are exchanged for map the declarations of a file to rows. A row `StandsFor` a
declaration when it is in the file, has the declaration's name, and is below the row that the
declaration's parent is mapped to. At its turn, a declaration whose parent is mapped gets the row
that stands for it, unless that row is of another kind (`Conflicts`), or a new row when there is
none (`offered_of_persistOne`). What it is mapped to afterwards can be told from the final map
(`outcome_of_persistFrom`): the declarations that are mapped are those that did not conflict and are
within none that did (`exists_resolve?_iff`), and a row keeps what the last declaration mapped to it
wrote (`details_of_lastDeclared`).
-/

set_option autoImplicit false
set_option relaxedAutoImplicit false

namespace SymbolGraph

/-- The row is where the declaration belongs: in the file, below the row of the declaration's
parent, and under its name. -/
structure Symbol.StandsFor (file : Store.FileScope) (idOf : Nat → Option Int)
    (declaration : Declaration) (symbol : Symbol) : Prop where
  projectId : symbol.projectId = file.projectId
  filePath : symbol.filePath = file.filePath
  parentId : declaration.parent.map idOf = symbol.parentId.map some
  name : symbol.name = declaration.name

namespace Store

/-- All tables but that of the symbols are the same. -/
structure SameOtherTables (before after : Store) : Prop where
  projects : after.projects = before.projects
  imports : after.imports = before.imports
  calls : after.calls = before.calls

theorem isPreorder_sameOtherTables : IsPreorder SameOtherTables where
  refl := fun _ ↦ ⟨rfl, rfl, rfl⟩
  trans := fun _ _ _ hfirst hsecond ↦
    ⟨hsecond.projects.trans hfirst.projects, hsecond.imports.trans hfirst.imports,
      hsecond.calls.trans hfirst.calls⟩

theorem sameOtherTables_upsertSymbol (file : FileScope) (parentId : Option Int)
    (declaration : Declaration) :
    Preserves SameOtherTables (upsertSymbol file parentId declaration) := by
  intro store id later hrun
  rcases upsertSymbol_cases hrun with ⟨_, _, _, _, _, rfl⟩ | ⟨_, _, _, _, rfl⟩
  · exact ⟨rfl, rfl, rfl⟩
  · exact ⟨rfl, rfl, rfl⟩

end Store

namespace Ingest

open Store (Grows KeepsWellFormed)

variable {file : Store.FileScope} {store later : Store} {state next last : PersistState}
  {declaration : Declaration} {declared : List Declaration}

/-! ### Where declarations stand -/

/-- Rows stand for a declaration when the map agrees on its parent. -/
theorem standsFor_congr {first second : Nat → Option Int}
    (hparent : declaration.parent.map first = declaration.parent.map second) {symbol : Symbol} :
    symbol.StandsFor file first declaration ↔ symbol.StandsFor file second declaration :=
  ⟨fun hstands ↦ { hstands with parentId := hparent.symm.trans hstands.parentId },
    fun hstands ↦ { hstands with parentId := hparent.trans hstands.parentId }⟩

/-- The row goes on standing for the declaration. -/
theorem standsFor_of_persists {idOf : Nat → Option Int} {before after : Symbol}
    (hpersists : before.Persists after) (hstands : before.StandsFor file idOf declaration) :
    after.StandsFor file idOf declaration where
  projectId := hpersists.projectId.trans hstands.projectId
  filePath := hpersists.filePath.trans hstands.filePath
  parentId := hstands.parentId.trans (congrArg (Option.map some) hpersists.parentId.symm)
  name := hpersists.name.trans hstands.name

/-- A row stands for the declaration, but it is of another kind. -/
def Conflicts (file : Store.FileScope) (idOf : Nat → Option Int) (store : Store)
    (declaration : Declaration) : Prop :=
  ∃ row ∈ store.symbols, row.StandsFor file idOf declaration ∧ row.kind ≠ declaration.kind

theorem conflicts_congr {first second : Nat → Option Int}
    (hparent : declaration.parent.map first = declaration.parent.map second) :
    Conflicts file first store declaration ↔ Conflicts file second store declaration := by
  unfold Conflicts
  simp only [standsFor_congr hparent]

/-- Below a stored parent, the rows that hold the place of a declaration are those that stand for
it. -/
theorem holdsSymbol_iff_standsFor (hstore : store.WellFormed) {scope : IdentityScope}
    {parentId : Option Int} (hplace : scope.place? declaration.parent = some parentId)
    (hparent : ∀ id, parentId = some id → store.hasSymbol id = true) {symbol : Symbol}
    (hsymbol : symbol ∈ store.symbols) :
    file.holdsSymbol (parentId.getD 0) declaration.name symbol = true ↔
      symbol.StandsFor file scope.resolve? declaration := by
  have hmapped := IdentityScope.place?_eq_some_iff.mp hplace
  have hinjective : Function.Injective (Option.map (some : Int → Option Int)) :=
    Option.map_injective fun _ _ ↦ Option.some.inj
  rw [Store.FileScope.holdsSymbol_eq_true_iff]
  simp only [Symbol.key, Prod.mk.injEq, hstore.parentKey_eq_iff hsymbol hparent]
  constructor
  · rintro ⟨hproject, hfile, rfl, hname⟩
    exact ⟨hproject, hfile, hmapped, hname⟩
  · rintro ⟨hproject, hfile, hparentId, hname⟩
    exact ⟨hproject, hfile, hinjective (hparentId.symm.trans hmapped), hname⟩

/-! ### One declaration at its turn -/

/-- What comes of a declaration that is offered to a store: the next state and the next store. -/
inductive Offered (file : Store.FileScope) (state : PersistState) (store : Store)
    (declaration : Declaration) : PersistState → Store → Prop
  /-- Its parent has no row, and it is passed over. -/
  | orphaned {outer : Nat} (hparent : declaration.parent = some outer)
      (hunknown : state.scope.resolve? outer = none) :
      Offered file state store declaration state.orphaned store
  /-- The row that stands for it is of another kind. -/
  | conflicted (hconflicts : Conflicts file state.scope.resolve? store declaration) :
      Offered file state store declaration state.conflicted store
  /-- It writes the row that stands for it, and no other row. -/
  | accepted (hfits : ¬ Conflicts file state.scope.resolve? store declaration) {later : Store}
      {row : Symbol} (hrow : row ∈ later.symbols) {id : Int} (hid : row.id = id)
      (hstands : row.StandsFor file state.scope.resolve? declaration)
      (hkind : row.kind = declaration.kind) (hsignature : row.signature = declaration.signature)
      (hspan : row.span = declaration.span)
      (hothers : ∀ other : Symbol, other.id ≠ id →
        (other ∈ later.symbols ↔ other ∈ store.symbols)) :
      Offered file state store declaration (state.accepted declaration.tag id) later

/-- The row that stands for a declaration is overwritten, and the other rows stay. -/
theorem mem_amendSymbol_iff {parentId : Option Int} {existing other : Symbol}
    (hexisting : ∀ row ∈ store.symbols,
      file.holdsSymbol (parentId.getD 0) declaration.name row = true → row = existing)
    (hother : other.id ≠ existing.id) :
    other ∈ (store.amendSymbol file parentId declaration).symbols ↔ other ∈ store.symbols := by
  unfold Store.amendSymbol Store.amendWhere
  constructor
  · intro hmem
    obtain ⟨row, hrow, rfl⟩ := List.mem_map.mp hmem
    split at hother
    · rename_i hholds
      obtain rfl := hexisting row hrow hholds
      exact absurd rfl hother
    · rename_i hfree
      rwa [if_neg hfree]
  · intro hmem
    refine List.mem_map.mpr ⟨other, hmem, if_neg fun hholds ↦ ?_⟩
    exact hother (congrArg Symbol.id (hexisting other hmem hholds))

/-- A new row is added, and the other rows stay. -/
theorem mem_addSymbol_iff {parentId : Option Int} {other : Symbol}
    (hother : other.id ≠ Store.nextId (store.symbols.map (·.id))) :
    other ∈ (store.addSymbol file parentId declaration).symbols ↔ other ∈ store.symbols := by
  unfold Store.addSymbol
  rw [List.mem_append, List.mem_singleton, or_iff_left]
  rintro rfl
  exact hother rfl

section Below

variable {parentId : Option Int} (hstore : store.WellFormed)
  (hplace : state.scope.place? declaration.parent = some parentId)
  (hparent : ∀ id, parentId = some id → store.hasSymbol id = true)
include hstore hplace hparent

/-- A declaration whose place is taken conflicts with the row that is there, or it overwrites it. -/
theorem offered_of_taken {existing : Symbol} (hfound : store.symbols.find?
      (file.holdsSymbol (parentId.getD 0) declaration.name) = some existing)
    (hrun : persistBelow (storeSink file) parentId declaration state store = (.ok next, later)) :
    Offered file state store declaration next later := by
  have hexisting := List.mem_of_find?_eq_some hfound
  have hplaced := List.find?_some hfound
  have hunique : ∀ row ∈ store.symbols,
      file.holdsSymbol (parentId.getD 0) declaration.name row = true → row = existing := by
    intro row hrow hheld
    rw [Store.FileScope.holdsSymbol_eq_true_iff] at hheld hplaced
    exact hstore.symbols.eq_of_key_eq hrow hexisting (hheld.trans hplaced.symm)
  have hstands := (holdsSymbol_iff_standsFor hstore hplace hparent hexisting).mp hplaced
  rw [persistBelow_of_taken hfound] at hrun
  by_cases hkind : existing.kind = declaration.kind
  · rw [if_pos hkind] at hrun
    cases hrun
    have hfits : ¬ Conflicts file state.scope.resolve? store declaration := by
      rintro ⟨row, hrow, hrowStands, hother⟩
      have hheld := (holdsSymbol_iff_standsFor hstore hplace hparent hrow).mpr hrowStands
      obtain rfl := hunique row hrow hheld
      exact hother hkind
    have hwritten : existing.takeOver declaration ∈
        (store.amendSymbol file parentId declaration).symbols :=
      List.mem_map.mpr ⟨existing, hexisting, if_pos hplaced⟩
    exact .accepted hfits hwritten rfl
      (standsFor_of_persists (existing.persists_takeOver declaration) hstands) hkind rfl rfl
      fun other hother ↦ mem_amendSymbol_iff hunique hother
  · rw [if_neg hkind] at hrun
    cases hrun
    exact .conflicted ⟨existing, hexisting, hstands, hkind⟩

/-- A declaration whose place is free gets a new row there. -/
theorem offered_of_free (hproject : store.hasProject file.projectId = true)
    (hfree : store.symbols.find?
      (file.holdsSymbol (parentId.getD 0) declaration.name) = none)
    (hrun : persistBelow (storeSink file) parentId declaration state store = (.ok next, later)) :
    Offered file state store declaration next later := by
  rw [persistBelow_of_free hfree hparent, if_pos hproject] at hrun
  cases hrun
  let row := file.newSymbol (Store.nextId (store.symbols.map (·.id))) parentId declaration
  have hfits : ¬ Conflicts file state.scope.resolve? store declaration := by
    rintro ⟨row, hrow, hstands, -⟩
    have hheld := (holdsSymbol_iff_standsFor hstore hplace hparent hrow).mpr hstands
    exact List.find?_eq_none.mp hfree row hrow hheld
  have hstands : row.StandsFor file state.scope.resolve? declaration :=
    ⟨rfl, rfl, IdentityScope.place?_eq_some_iff.mp hplace, rfl⟩
  exact .accepted hfits (List.mem_append_right _ (List.mem_singleton_self row)) rfl hstands rfl rfl
    rfl fun other hother ↦ mem_addSymbol_iff hother

end Below

/-! ### The run over all declarations -/

/-- Declarations of the file can be offered: the store is well formed and has the project, and the
tags that have ids have those of rows of the file. -/
structure IsReady (file : Store.FileScope) (state : PersistState) (store : Store) : Prop where
  wellFormed : store.WellFormed
  hasProject : store.hasProject file.projectId = true
  scopeStored : ScopeStored file state.scope store

theorem isReady_start (hstore : store.WellFormed)
    (hproject : store.hasProject file.projectId = true) : IsReady file .start store :=
  ⟨hstore, hproject, scopeStored_start file store⟩

theorem grows_of_persistFrom
    (hrun : persistFrom (storeSink file) declared state store = (.ok last, later)) :
    store.Grows later := by
  have hgrows := relates_persistFrom Grows.refl Grows.trans (grows_storeSink file) declared state
    store
  rwa [hrun] at hgrows

section Ready

variable (hready : IsReady file state store)
include hready

/-- After some declarations, others can be offered. -/
theorem isReady_of_persistFrom
    (hrun : persistFrom (storeSink file) declared state store = (.ok last, later)) :
    IsReady file last later := by
  have hsink (parentId : Option Int) (declaration : Declaration) (store : Store) :
      store.KeepsWellFormed (storeSink file parentId declaration store).2 :=
    (Store.wellFormed_upsertSymbol file parentId declaration).attempt
      Store.keptByWrites_wellFormed.toIsPreorder store
  have hkeeps := relates_persistFrom KeepsWellFormed.refl KeepsWellFormed.trans hsink declared state
    store
  rw [hrun] at hkeeps
  exact ⟨hkeeps hready.wellFormed, (grows_of_persistFrom hrun).hasProject hready.hasProject,
    scopeStored_persistFrom hready.scopeStored hrun⟩

theorem isReady_of_persistOne
    (hrun : persistOne (storeSink file) declaration state store = (.ok next, later)) :
    IsReady file next later := by
  have hdone : persistFrom (storeSink file) [] next later = (.ok next, later) := rfl
  exact isReady_of_persistFrom hready
    (persistFrom_cons_eq_ok_iff.mpr ⟨next, later, hrun, hdone⟩)

theorem offered_of_persistOne
    (hrun : persistOne (storeSink file) declaration state store = (.ok next, later)) :
    Offered file state store declaration next later := by
  rw [persistOne_eq] at hrun
  cases hplace : state.scope.place? declaration.parent with
  | none =>
    rw [hplace] at hrun
    cases hrun
    obtain ⟨outer, hparent, hunknown⟩ := IdentityScope.exists_unknown_of_place? hplace
    exact .orphaned hparent hunknown
  | some parentId =>
    rw [hplace] at hrun
    have hparent := hready.scopeStored.hasSymbol_of_place? hplace
    cases hfound : store.symbols.find?
        (file.holdsSymbol (parentId.getD 0) declaration.name) with
    | some existing => exact offered_of_taken hready.wellFormed hplace hparent hfound hrun
    | none => exact offered_of_free hready.wellFormed hplace hparent hready.hasProject hfound hrun

end Ready

/-! ### Turns -/

/-- The store that a declaration is offered to, when those declared before it have been. -/
def turn (file : Store.FileScope) (declared : List Declaration) (store : Store)
    (declaration : Declaration) : Store :=
  (persist (storeSink file)
    (declared.takeWhile fun earlier ↦ earlier.tag ≠ declaration.tag) store).2

section Turns

variable {before after : List Declaration}

theorem turn_append_cons
    (hascending : (before ++ declaration :: after).Pairwise fun first second ↦
      first.tag < second.tag) :
    turn file (before ++ declaration :: after) store declaration =
      (persistFrom (storeSink file) before .start store).2 := by
  have hbefore : ∀ earlier ∈ before, decide (earlier.tag ≠ declaration.tag) = true := by
    intro earlier hearlier
    have hlt := (List.pairwise_append.mp hascending).2.2 earlier hearlier declaration
      List.mem_cons_self
    exact decide_eq_true (Nat.ne_of_lt hlt)
  rw [turn, List.takeWhile_append_of_pos hbefore, List.takeWhile_cons_of_neg (by simp),
    List.append_nil, persist]

/-- A declaration is offered to the store of its turn, in a state in which it has no id yet.
Afterwards its id does not change, and what has an earlier tag had its id before. -/
theorem exists_turn (hready : IsReady file .start store)
    (hascending : (before ++ declaration :: after).Pairwise fun first second ↦
      first.tag < second.tag)
    (hrun : persistFrom (storeSink file) (before ++ declaration :: after) .start store =
      (.ok last, later)) :
    ∃ state next middle,
      Offered file state (turn file (before ++ declaration :: after) store declaration)
        declaration next middle ∧
      IsReady file next middle ∧
      persistFrom (storeSink file) after next middle = (.ok last, later) ∧
      state.scope.resolve? declaration.tag = none ∧
      last.scope.resolve? declaration.tag = next.scope.resolve? declaration.tag ∧
      ∀ tag < declaration.tag, last.scope.resolve? tag = state.scope.resolve? tag := by
  obtain ⟨state, reached, hbefore, hrest⟩ := persistFrom_append_eq_ok_iff.mp hrun
  obtain ⟨next, middle, hone, hafter⟩ := persistFrom_cons_eq_ok_iff.mp hrest
  obtain ⟨-, hsecond, hcross⟩ := List.pairwise_append.mp hascending
  have hlater := (List.pairwise_cons.mp hsecond).1
  have hreached := isReady_of_persistFrom hready hbefore
  have hturn : turn file (before ++ declaration :: after) store declaration = reached := by
    rw [turn_append_cons hascending, hbefore]
  have hfresh : state.scope.resolve? declaration.tag = none :=
    resolve?_of_persistFrom hbefore fun earlier hearlier ↦
      (Nat.ne_of_lt (hcross earlier hearlier declaration List.mem_cons_self)).symm
  have hkept : ∀ tag ≤ declaration.tag, last.scope.resolve? tag = next.scope.resolve? tag := by
    intro tag htag
    exact resolve?_of_persistFrom hafter fun other hother ↦
      Nat.ne_of_lt (Nat.lt_of_le_of_lt htag (hlater other hother))
  refine ⟨state, next, middle, ?_, isReady_of_persistOne hreached hone, hafter, hfresh,
    hkept declaration.tag (Nat.le_refl _), fun tag htag ↦ ?_⟩
  · rw [hturn]
    exact offered_of_persistOne hreached hone
  · rw [hkept tag (Nat.le_of_lt htag)]
    exact resolve?_of_persistOne hone (Nat.ne_of_lt htag)

end Turns

/-! ### The map at the end -/

/-- The second declaration is the first one, or it is around it: its parent, the parent of that, and
so on. -/
def IsWithin (declared : List Declaration) : Declaration → Declaration → Prop :=
  Relation.ReflTransGen fun inner owner ↦ owner ∈ declared ∧ inner.parent = some owner.tag

/-- What came of a declaration, told by the map at the end. -/
inductive Outcome (file : Store.FileScope) (idOf : Nat → Option Int) (turn later : Store)
    (declaration : Declaration) : Prop
  /-- Its parent is not mapped. -/
  | orphaned {outer : Nat} (hparent : declaration.parent = some outer)
      (hunknown : idOf outer = none) (hnone : idOf declaration.tag = none)
  /-- It met a row of another kind. -/
  | conflicted (hconflicts : Conflicts file idOf turn declaration)
      (hnone : idOf declaration.tag = none)
  /-- It is mapped to a row of its kind that stands for it. -/
  | mapped (hfits : ¬ Conflicts file idOf turn declaration) {row : Symbol}
      (hrow : row ∈ later.symbols) (hid : idOf declaration.tag = some row.id)
      (hstands : row.StandsFor file idOf declaration) (hkind : row.kind = declaration.kind)

section Run

variable {fits : String → SymbolKind → SymbolKind → Prop} {moduleName : String}
  (hready : IsReady file .start store) (hnested : Extraction.Nested fits moduleName declared)
  (hrun : persistFrom (storeSink file) declared .start store = (.ok last, later))
include hready hnested hrun

theorem outcome_of_persistFrom (hdeclaration : declaration ∈ declared) :
    Outcome file last.scope.resolve? (turn file declared store declaration) later declaration := by
  have hascending := hnested.pairwise_tag_lt
  have hearlier : ∀ outer, declaration.parent = some outer → outer < declaration.tag := by
    intro outer hparent
    obtain ⟨-, -, -, hlt⟩ := hnested.exists_parent hdeclaration hparent
    exact hlt
  obtain ⟨before, after, rfl⟩ := List.append_of_mem hdeclaration
  obtain ⟨state, next, middle, hoffered, -, hafter, hfresh, htag, hkept⟩ :=
    exists_turn hready hascending hrun
  have hparent : declaration.parent.map last.scope.resolve? =
      declaration.parent.map state.scope.resolve? :=
    Option.map_congr fun outer houter ↦ hkept outer (hearlier outer houter)
  cases hoffered with
  | orphaned houter hunknown =>
    exact .orphaned houter ((hkept _ (hearlier _ houter)).trans hunknown) (htag.trans hfresh)
  | conflicted hconflicts =>
    exact .conflicted ((conflicts_congr hparent).mpr hconflicts) (htag.trans hfresh)
  | @accepted hfits _ row hrow _ hid hstands hkind hsignature hspan hothers =>
    obtain ⟨kept, hkeptRow, hpersists⟩ := (grows_of_persistFrom hafter).symbols.exists_mem hrow
    refine .mapped (fun hconflicts ↦ hfits ((conflicts_congr hparent).mp hconflicts)) hkeptRow ?_
      ((standsFor_congr hparent).mpr (standsFor_of_persists hpersists hstands))
      (hpersists.kind.trans hkind)
    rw [htag, hpersists.id, hid, PersistState.resolve?_accepted]

/-- A declaration is mapped when its parent is, unless it conflicts. -/
theorem isSome_resolve?_iff (hdeclaration : declaration ∈ declared) :
    (last.scope.resolve? declaration.tag).isSome = true ↔
      (∀ outer, declaration.parent = some outer → (last.scope.resolve? outer).isSome = true) ∧
      ¬ Conflicts file last.scope.resolve? (turn file declared store declaration) declaration := by
  cases outcome_of_persistFrom hready hnested hrun hdeclaration with
  | orphaned hparent hunknown hnone =>
    rw [hnone]
    refine ⟨nofun, fun ⟨hmapped, _⟩ ↦ ?_⟩
    have hsome := hmapped _ hparent
    rw [hunknown] at hsome
    exact hsome
  | conflicted hconflicts hnone =>
    rw [hnone]
    exact ⟨nofun, fun ⟨_, hfits⟩ ↦ absurd hconflicts hfits⟩
  | mapped hfits hrow hid hstands hkind =>
    rw [hid]
    refine ⟨fun _ ↦ ⟨fun outer hparent ↦ ?_, hfits⟩, fun _ ↦ rfl⟩
    have hparentId := hstands.parentId
    rw [hparent, Option.map_some, eq_comm, Option.map_eq_some_iff] at hparentId
    obtain ⟨id, -, hid⟩ := hparentId
    rw [← hid, Option.isSome_some]

/-- The mapped declarations are those that did not conflict and are within none that did. -/
theorem isSome_resolve?_iff_forall_within (hdeclaration : declaration ∈ declared) :
    (last.scope.resolve? declaration.tag).isSome = true ↔
      ∀ around, IsWithin declared declaration around →
        ¬ Conflicts file last.scope.resolve? (turn file declared store around) around := by
  -- along the chain of parents, whose tags descend
  induction htag : declaration.tag using Nat.strongRecOn generalizing declaration with
  | ind tag ih =>
    subst htag
    rw [isSome_resolve?_iff hready hnested hrun hdeclaration]
    constructor
    · rintro ⟨hparent, hfits⟩ around hwithin
      rcases Relation.ReflTransGen.cases_head hwithin with rfl | ⟨owner, ⟨howner, hown⟩, hrest⟩
      · exact hfits
      · obtain ⟨-, -, -, hlt⟩ := hnested.exists_parent hdeclaration hown
        exact (ih owner.tag hlt howner rfl).mp (hparent owner.tag hown) around hrest
    · intro hall
      refine ⟨fun outer hparent ↦ ?_, hall declaration .refl⟩
      obtain ⟨owner, howner, rfl, hlt⟩ := hnested.exists_parent hdeclaration hparent
      exact (ih owner.tag hlt howner rfl).mpr fun around hwithin ↦
        hall around (.head ⟨howner, hparent⟩ hwithin)

/-- A mapped declaration has its row, which stands for it and is of its kind. -/
theorem exists_row_of_resolve? (hdeclaration : declaration ∈ declared) {id : Int}
    (hid : last.scope.resolve? declaration.tag = some id) :
    ∃ row ∈ later.symbols, row.id = id ∧
      row.StandsFor file last.scope.resolve? declaration ∧ row.kind = declaration.kind := by
  cases outcome_of_persistFrom hready hnested hrun hdeclaration with
  | orphaned hparent hunknown hnone =>
    rw [hnone] at hid
    cases hid
  | conflicted hconflicts hnone =>
    rw [hnone] at hid
    cases hid
  | mapped hfits hrow hrowId hstands hkind =>
    exact ⟨_, hrow, Option.some.inj (hrowId.symm.trans hid), hstands, hkind⟩

end Run

/-! ### What rows carry -/

/-- A row that nothing is mapped to is not written. -/
theorem mem_symbols_iff_of_not_mapped (hready : IsReady file state store)
    (hascending : declared.Pairwise fun first second ↦ first.tag < second.tag)
    (hrun : persistFrom (storeSink file) declared state store = (.ok last, later)) {row : Symbol}
    (hother : ∀ declaration ∈ declared, last.scope.resolve? declaration.tag ≠ some row.id) :
    row ∈ later.symbols ↔ row ∈ store.symbols := by
  induction declared generalizing state store with
  | nil =>
    cases hrun
    rfl
  | cons declaration rest ih =>
    obtain ⟨hfirst, hrest⟩ := List.pairwise_cons.mp hascending
    obtain ⟨next, middle, hone, hafter⟩ := persistFrom_cons_eq_ok_iff.mp hrun
    rw [ih (isReady_of_persistOne hready hone) hrest hafter
      fun other hmem ↦ hother other (List.mem_cons_of_mem declaration hmem)]
    have hnext : next.scope.resolve? declaration.tag ≠ some row.id := by
      rw [← resolve?_of_persistFrom hafter fun other hmem ↦ Nat.ne_of_lt (hfirst other hmem)]
      exact hother declaration List.mem_cons_self
    cases offered_of_persistOne hready hone with
    | orphaned => rfl
    | conflicted => rfl
    | accepted hfits hrow hid hstands hkind hsignature hspan hothers =>
      refine hothers row fun hsame ↦ hnext ?_
      rw [hsame, PersistState.resolve?_accepted]

/-- The last declaration that is mapped to a row. -/
def lastDeclared (idOf : Nat → Option Int) (declared : List Declaration) (id : Int) :
    Option Declaration :=
  (declared.filter fun declaration ↦ idOf declaration.tag = some id).getLast?

theorem lastDeclared_eq_none_iff {idOf : Nat → Option Int} {id : Int} :
    lastDeclared idOf declared id = none ↔
      ∀ declaration ∈ declared, idOf declaration.tag ≠ some id := by
  simp [lastDeclared]

/-- After the last declaration that is mapped to a row, none is. -/
theorem exists_append_of_lastDeclared {idOf : Nat → Option Int} {id : Int}
    (hlast : lastDeclared idOf declared id = some declaration) :
    ∃ before after, declared = before ++ declaration :: after ∧ idOf declaration.tag = some id ∧
      ∀ other ∈ after, idOf other.tag ≠ some id := by
  obtain ⟨earlier, hfilter⟩ := List.getLast?_eq_some_iff.mp hlast
  obtain ⟨before, rest, rfl, -, hrest⟩ := List.filter_eq_append_iff.mp hfilter
  obtain ⟨skipped, after, rfl, -, hid, hafter⟩ := List.filter_eq_cons_iff.mp hrest
  refine ⟨before ++ skipped, after, by rw [List.append_assoc], of_decide_eq_true hid, ?_⟩
  intro other hother hsame
  exact List.filter_eq_nil_iff.mp hafter other hother (decide_eq_true hsame)

/-- A row carries what the last declaration that is mapped to it says. -/
theorem details_of_lastDeclared (hready : IsReady file .start store)
    (hascending : declared.Pairwise fun first second ↦ first.tag < second.tag)
    (hrun : persistFrom (storeSink file) declared .start store = (.ok last, later)) {row : Symbol}
    (hrow : row ∈ later.symbols)
    (hlast : lastDeclared last.scope.resolve? declared row.id = some declaration) :
    row.signature = declaration.signature ∧ row.span = declaration.span := by
  obtain ⟨before, after, rfl, hid, hnone⟩ := exists_append_of_lastDeclared hlast
  obtain ⟨state, next, middle, hoffered, hmiddle, hafter, hfresh, htag, -⟩ :=
    exists_turn hready hascending hrun
  have hlater := isReady_of_persistFrom hready hrun
  have hrest := (List.pairwise_cons.mp (List.pairwise_append.mp hascending).2.1).2
  rw [htag] at hid
  cases hoffered with
  | orphaned => cases hfresh.symm.trans hid
  | conflicted => cases hfresh.symm.trans hid
  | @accepted _ _ written hwritten id hwrittenId _ _ hsignature hspan _ =>
    rw [PersistState.resolve?_accepted] at hid
    have hsame : written.id = row.id := hwrittenId.trans (Option.some.inj hid)
    have hkept : written ∈ later.symbols := by
      refine (mem_symbols_iff_of_not_mapped hmiddle hrest hafter ?_).mpr hwritten
      rw [hsame]
      exact hnone
    obtain rfl := hlater.wellFormed.symbols.eq_of_id_eq hkept hrow hsame
    exact ⟨hsignature, hspan⟩

end Ingest

end SymbolGraph
