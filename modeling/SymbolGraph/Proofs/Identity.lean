import SymbolGraph.Identity

/-!
# Tags are exchanged for ids

A tag has the id that it was given last (`resolve?_record`). Offering declarations changes the world
only as the sink does, one answer after the other (`relates_persistFrom`), and gives ids to their
own tags only (`resolve?_of_persistFrom`).
-/

set_option autoImplicit false
set_option relaxedAutoImplicit false

namespace SymbolGraph

namespace IdentityScope

/-- Entries of other tags do not matter for a tag. -/
theorem lookup_filter_ne {ids : List (Nat × Int)} {tag other : Nat} (hother : other ≠ tag) :
    (ids.filter fun entry ↦ entry.1 ≠ tag).lookup other = ids.lookup other := by
  induction ids with
  | nil => rfl
  | cons entry rest ih =>
    rw [List.filter_cons, List.lookup_cons, ← ih]
    by_cases hsame : entry.1 = tag
    · simp [hsame, beq_false_of_ne hother]
    · rw [if_pos (decide_eq_true hsame), List.lookup_cons]

/-- The tag has its new id, and other tags keep theirs. -/
theorem resolve?_record (scope : IdentityScope) (tag : Nat) (id : Int) (other : Nat) :
    (scope.record tag id).resolve? other =
      if other = tag then some id else scope.resolve? other := by
  unfold resolve? record
  rw [List.lookup_cons]
  by_cases hsame : other = tag
  · simp [hsame]
  · rw [beq_false_of_ne hsame, if_neg hsame]
    exact lookup_filter_ne hsame

/-- The id below which a declaration with the parent is offered, if any, unless its parent has no
id. -/
def place? (scope : IdentityScope) (parent : Option Nat) : Option (Option Int) :=
  match scope.parentLink parent with
  | .root => some none
  | .resolved id => some (some id)
  | .missing _ => none

/-- A declaration is offered below the id of a tag. -/
theorem exists_resolve?_of_place? {scope : IdentityScope} {parent : Option Nat} {id : Int}
    (hplace : scope.place? parent = some (some id)) : ∃ tag, scope.resolve? tag = some id := by
  unfold place? parentLink at hplace
  cases parent with
  | none => cases hplace
  | some tag =>
    cases hfound : scope.resolve? tag with
    | none => simp [hfound] at hplace
    | some found =>
      simp only [hfound, Option.some.injEq] at hplace
      exact ⟨tag, hplace ▸ hfound⟩

/-- A place is known when the parent, if there is one, has an id. -/
theorem place?_eq_some_iff {scope : IdentityScope} {parent : Option Nat} {parentId : Option Int} :
    scope.place? parent = some parentId ↔ parent.map scope.resolve? = parentId.map some := by
  unfold place? parentLink
  cases parent with
  | none => cases parentId <;> simp
  | some tag => cases hfound : scope.resolve? tag <;> cases parentId <;> simp [hfound]

/-- A place is unknown when the parent has no id. -/
theorem exists_unknown_of_place? {scope : IdentityScope} {parent : Option Nat}
    (hplace : scope.place? parent = none) :
    ∃ outer, parent = some outer ∧ scope.resolve? outer = none := by
  unfold place? parentLink at hplace
  cases parent with
  | none => cases hplace
  | some tag =>
    cases hfound : scope.resolve? tag with
    | none => exact ⟨tag, rfl, hfound⟩
    | some id => simp [hfound] at hplace

end IdentityScope

/-- An accepted declaration has the id under which it was accepted. -/
theorem PersistState.resolve?_accepted (state : PersistState) (tag : Nat) (id : Int) :
    (state.accepted tag id).scope.resolve? tag = some id :=
  (IdentityScope.resolve?_record ..).trans (if_pos rfl)

/-! ### Offering declarations -/

variable {σ : Type} {relation : σ → σ → Prop} {sink : SymbolSink σ}

/-- Whatever comes of the offer, the world is the one that the sink leaves. -/
theorem snd_persistBelow (sink : SymbolSink σ) (parentId : Option Int) (declaration : Declaration)
    (state : PersistState) (world : σ) :
    (persistBelow sink parentId declaration state world).2 =
      (sink parentId declaration world).2 := by
  unfold persistBelow
  split
  · rename_i hanswer
    rw [hanswer]
  · rename_i hanswer
    rw [hanswer]
  · rename_i hanswer
    rw [hanswer]

/-- A declaration is passed over, or it is offered in its place. -/
theorem persistOne_eq (sink : SymbolSink σ) (declaration : Declaration) (state : PersistState)
    (world : σ) : persistOne sink declaration state world =
      match state.scope.place? declaration.parent with
      | none => (.ok state.orphaned, world)
      | some parentId => persistBelow sink parentId declaration state world := by
  unfold persistOne IdentityScope.place?
  cases state.scope.parentLink declaration.parent with
  | root => rfl
  | resolved id => rfl
  | missing tag => rfl

/-- Offering one declaration changes the world as the sink does, or not at all. -/
theorem relates_persistOne (hrefl : ∀ world, relation world world)
    (hsink : ∀ parentId declaration world, relation world (sink parentId declaration world).2)
    (declaration : Declaration) (state : PersistState) (world : σ) :
    relation world (persistOne sink declaration state world).2 := by
  rw [persistOne_eq]
  cases state.scope.place? declaration.parent with
  | none => exact hrefl world
  | some parentId =>
    have hoffered := hsink parentId declaration world
    rwa [← snd_persistBelow sink parentId declaration state world] at hoffered

/-- A preorder that the sink's answers keep is kept by offering any declarations. -/
theorem relates_persistFrom (hrefl : ∀ world, relation world world)
    (htrans : ∀ first second third, relation first second → relation second third →
      relation first third)
    (hsink : ∀ parentId declaration world, relation world (sink parentId declaration world).2)
    (declarations : List Declaration) (state : PersistState) (world : σ) :
    relation world (persistFrom sink declarations state world).2 := by
  induction declarations generalizing state world with
  | nil => exact hrefl world
  | cons declaration rest ih =>
    have hfirst := relates_persistOne hrefl hsink declaration state world
    unfold persistFrom
    split
    · rename_i next later hanswer
      rw [hanswer] at hfirst
      exact htrans _ _ _ hfirst (ih next later)
    · rename_i failure later hanswer
      rwa [hanswer] at hfirst

/-! ### Offering in turns -/

theorem persistFrom_cons_eq_ok_iff {declaration : Declaration} {rest : List Declaration}
    {state last : PersistState} {world final : σ} :
    persistFrom sink (declaration :: rest) state world = (.ok last, final) ↔
      ∃ next later, persistOne sink declaration state world = (.ok next, later) ∧
        persistFrom sink rest next later = (.ok last, final) := by
  rw [persistFrom]
  rcases persistOne sink declaration state world with ⟨answer, later⟩
  cases answer with
  | error failure => simp
  | ok next => simp [and_assoc]

/-- Declarations are offered when some of them are offered first and then the others. -/
theorem persistFrom_append_eq_ok_iff {first second : List Declaration} {state last : PersistState}
    {world final : σ} : persistFrom sink (first ++ second) state world = (.ok last, final) ↔
      ∃ next later, persistFrom sink first state world = (.ok next, later) ∧
        persistFrom sink second next later = (.ok last, final) := by
  induction first generalizing state world with
  | nil => simp [persistFrom, and_assoc]
  | cons declaration rest ih =>
    rw [List.cons_append, persistFrom_cons_eq_ok_iff]
    simp only [ih, persistFrom_cons_eq_ok_iff]
    constructor
    · rintro ⟨middle, there, hone, next, later, hrest, hsecond⟩
      exact ⟨next, later, ⟨middle, there, hone, hrest⟩, hsecond⟩
    · rintro ⟨next, later, ⟨middle, there, hone, hrest⟩, hsecond⟩
      exact ⟨middle, there, hone, next, later, hrest, hsecond⟩

/-- Offering a declaration gives no id to other tags. -/
theorem resolve?_of_persistOne {declaration : Declaration} {state next : PersistState}
    {world later : σ} (hrun : persistOne sink declaration state world = (.ok next, later))
    {tag : Nat} (htag : tag ≠ declaration.tag) :
    next.scope.resolve? tag = state.scope.resolve? tag := by
  rw [persistOne_eq] at hrun
  cases hplace : state.scope.place? declaration.parent with
  | none =>
    rw [hplace] at hrun
    cases hrun
    rfl
  | some parentId =>
    rw [hplace] at hrun
    dsimp only at hrun
    unfold persistBelow at hrun
    split at hrun
    · cases hrun
      exact (IdentityScope.resolve?_record ..).trans (if_neg htag)
    · cases hrun
      rfl
    · cases hrun

/-- Offering declarations gives no id to tags of others. -/
theorem resolve?_of_persistFrom {declarations : List Declaration} {state last : PersistState}
    {world final : σ} (hrun : persistFrom sink declarations state world = (.ok last, final))
    {tag : Nat} (htag : ∀ declaration ∈ declarations, tag ≠ declaration.tag) :
    last.scope.resolve? tag = state.scope.resolve? tag := by
  induction declarations generalizing state world with
  | nil =>
    cases hrun
    rfl
  | cons declaration rest ih =>
    obtain ⟨next, later, hone, hrest⟩ := persistFrom_cons_eq_ok_iff.mp hrun
    rw [ih hrest fun other hother ↦ htag other (List.mem_cons_of_mem declaration hother)]
    exact resolve?_of_persistOne hone (htag declaration List.mem_cons_self)

end SymbolGraph
