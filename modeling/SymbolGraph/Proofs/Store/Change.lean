import SymbolGraph.Store.Transaction

/-!
# Changes that succeed

A change that succeeds gives a value and a store. `run_bind_eq_ok_iff` takes a sequence of changes
apart, and for each write to the store a lemma says everything that the write may have done when it
succeeded (`ensureProject_cases`, `upsertSymbol_cases`, `upsertImport_cases`, `insertCall_cases`,
`Ledger.resolve_cases`): a row was amended, a row was added under the next id after all it refers to
was found, or nothing changed. No later proof opens a write again.

`Preserves` is a relation between the store before and the store after a change whenever it
succeeds. A preorder that the single writes preserve (`KeptByWrites`, or `KeptByFileWrites` for the
writes to one file) is preserved by everything made of them. `RunsAlike` is a relation between two
stores that two changes keep, in success and in failure.
-/

set_option autoImplicit false
set_option relaxedAutoImplicit false

namespace SymbolGraph.Store

variable {α β : Type}

/-! ### Sequences -/

/-- A sequence succeeds when its first part and what follows it succeed. -/
theorem run_bind_eq_ok_iff {change : Change α} {next : α → Change β} {store : Store}
    {result : β × Store} :
    (change >>= next).run store = .ok result ↔
      ∃ value middle, change.run store = .ok (value, middle) ∧
        (next value).run middle = .ok result := by
  rw [StateT.run_bind]
  cases hchange : change.run store with
  | error failure => simp [bind, Except.bind]
  | ok first =>
    constructor
    · intro hrun
      exact ⟨first.1, first.2, rfl, hrun⟩
    · rintro ⟨value, middle, hfirst, hrun⟩
      cases hfirst
      exact hrun

theorem run_pure_eq_ok_iff {value : α} {store : Store} {result : α × Store} :
    (pure value : Change α).run store = .ok result ↔ result = (value, store) := by
  rw [StateT.run_pure]
  constructor
  · intro hrun
    exact (Except.ok.inj hrun).symm
  · rintro rfl
    rfl

theorem run_get_bind {next : Store → Change β} {store : Store} :
    ((get : Change Store) >>= next).run store = (next store).run store :=
  rfl

theorem run_set_bind {next : Change β} {store later : Store} :
    ((set later : Change PUnit) >>= fun _ ↦ next).run store = next.run later :=
  rfl

theorem run_throw {failure : GraphError} {store : Store} :
    (throw failure : Change α).run store = .error failure :=
  rfl

theorem run_throw_bind {failure : GraphError} {next : α → Change β} {store : Store} :
    ((throw failure : Change α) >>= next).run store = .error failure :=
  rfl

/-- A requirement that is met changes nothing. -/
theorem run_require_bind_eq_ok_iff {found : Bool} {next : Change β} {store : Store}
    {result : β × Store} :
    (require found >>= fun _ ↦ next).run store = .ok result ↔
      found = true ∧ next.run store = .ok result := by
  cases found with
  | false =>
    change (throw GraphError.brokenReference >>= fun _ ↦ next).run store = .ok result ↔ _
    rw [run_throw_bind]
    simp
  | true =>
    change next.run store = .ok result ↔ _
    simp

/-! ### Writes -/

/-- Ensuring a project finds it under its URL, or adds it. -/
theorem ensureProject_cases {name url : String} {store later : Store} {project : Project}
    (hrun : (ensureProject name url).run store = .ok (project, later)) :
    (project ∈ store.projects ∧ project.url = url ∧ later = store) ∨
    ((∀ other ∈ store.projects, other.url ≠ url) ∧
      project = ⟨nextId (store.projects.map (·.id)), name, url⟩ ∧
      later = { store with projects := store.projects ++ [project] }) := by
  unfold ensureProject at hrun
  rw [run_get_bind] at hrun
  split at hrun
  · rename_i found hfound
    obtain ⟨rfl, rfl⟩ := Prod.mk.inj (run_pure_eq_ok_iff.mp hrun)
    have hurl := List.find?_some hfound
    exact Or.inl ⟨List.mem_of_find?_eq_some hfound, by simpa using hurl, rfl⟩
  · rename_i hnone
    rw [run_set_bind] at hrun
    obtain ⟨rfl, rfl⟩ := Prod.mk.inj (run_pure_eq_ok_iff.mp hrun)
    refine Or.inr ⟨?_, rfl, rfl⟩
    simpa using hnone

/-- Writing a symbol amends the row of its kind that holds its place, or adds a row to a stored
project below a stored parent. -/
theorem upsertSymbol_cases {file : FileScope} {parentId : Option Int} {declaration : Declaration}
    {store later : Store} {id : Int}
    (hrun : (upsertSymbol file parentId declaration).run store = .ok (id, later)) :
    (∃ existing ∈ store.symbols,
      file.holdsSymbol (parentId.getD 0) declaration.name existing = true ∧
      existing.kind = declaration.kind ∧ id = existing.id ∧
      later = { store with
        symbols := amendWhere (file.holdsSymbol (parentId.getD 0) declaration.name)
          (·.takeOver declaration) store.symbols }) ∨
    ((∀ symbol ∈ store.symbols,
        file.holdsSymbol (parentId.getD 0) declaration.name symbol = false) ∧
      store.hasProject file.projectId = true ∧
      (∀ parent, parentId = some parent → parent = id ∨ store.hasSymbol parent = true) ∧
      id = nextId (store.symbols.map (·.id)) ∧
      later = { store with
        symbols := store.symbols ++ [file.newSymbol id parentId declaration] }) := by
  unfold upsertSymbol at hrun
  rw [run_get_bind] at hrun
  dsimp only at hrun
  split at hrun
  · rename_i existing hfound
    split at hrun
    · rename_i hkind
      rw [run_set_bind] at hrun
      obtain ⟨rfl, rfl⟩ := Prod.mk.inj (run_pure_eq_ok_iff.mp hrun)
      exact Or.inl ⟨existing, List.mem_of_find?_eq_some hfound, List.find?_some hfound, hkind, rfl,
        rfl⟩
    · rw [run_throw] at hrun
      cases hrun
  · rename_i hnone
    obtain ⟨hproject, hrest⟩ := run_require_bind_eq_ok_iff.mp hrun
    have hfree : ∀ symbol ∈ store.symbols,
        file.holdsSymbol (parentId.getD 0) declaration.name symbol = false := by
      simpa using hnone
    cases parentId with
    | none =>
      dsimp only at hrest
      obtain ⟨rfl, rfl⟩ := Prod.mk.inj (run_pure_eq_ok_iff.mp hrest)
      exact Or.inr ⟨hfree, hproject, by simp, rfl, rfl⟩
    | some parent =>
      dsimp only at hrest
      obtain ⟨hparent, hdone⟩ := run_require_bind_eq_ok_iff.mp hrest
      obtain ⟨rfl, rfl⟩ := Prod.mk.inj (run_pure_eq_ok_iff.mp hdone)
      refine Or.inr ⟨hfree, hproject, ?_, rfl, rfl⟩
      intro other hother
      obtain rfl := Option.some.inj hother
      simpa using hparent

/-- Writing an import amends the row that holds its place, or adds a row to a stored project. -/
theorem upsertImport_cases {file : FileScope} {mention : ImportMention} {store later : Store}
    {value : Unit} (hrun : (upsertImport file mention).run store = .ok (value, later)) :
    ((∃ entry ∈ store.imports, file.holdsImport mention.source mention.name entry = true) ∧
      later = { store with
        imports := amendWhere (file.holdsImport mention.source mention.name) (·.takeOver mention)
          store.imports }) ∨
    ((∀ entry ∈ store.imports, file.holdsImport mention.source mention.name entry = false) ∧
      store.hasProject file.projectId = true ∧
      later = { store with
        imports := store.imports ++
          [file.newImport (nextId (store.imports.map (·.id))) mention] }) := by
  unfold upsertImport at hrun
  rw [run_get_bind] at hrun
  dsimp only at hrun
  split at hrun
  · rename_i hstored
    exact Or.inl ⟨by simpa using hstored, (Prod.mk.inj (run_pure_eq_ok_iff.mp hrun)).2⟩
  · rename_i hnone
    obtain ⟨hproject, hdone⟩ := run_require_bind_eq_ok_iff.mp hrun
    exact Or.inr ⟨by simpa using hnone, hproject, (Prod.mk.inj (run_pure_eq_ok_iff.mp hdone)).2⟩

/-- Writing a call changes nothing when it is stored, and otherwise adds a row to a stored project
and a stored caller. -/
theorem insertCall_cases {file : FileScope} {callerId : Int} {callee : String} {line : Int}
    {store later : Store} {isNew : Bool}
    (hrun : (insertCall file callerId callee line).run store = .ok (isNew, later)) :
    ((∃ call ∈ store.calls, file.holdsCall callerId callee line call = true) ∧ isNew = false ∧
      later = store) ∨
    ((∀ call ∈ store.calls, file.holdsCall callerId callee line call = false) ∧
      store.hasProject file.projectId = true ∧ store.hasSymbol callerId = true ∧ isNew = true ∧
      later = { store with
        calls := store.calls ++
          [file.newCall (nextId (store.calls.map (·.id))) callerId callee line] }) := by
  unfold insertCall at hrun
  rw [run_get_bind] at hrun
  split at hrun
  · rename_i hstored
    obtain ⟨rfl, rfl⟩ := Prod.mk.inj (run_pure_eq_ok_iff.mp hrun)
    exact Or.inl ⟨by simpa using hstored, rfl, rfl⟩
  · rename_i hnone
    obtain ⟨hproject, hrest⟩ := run_require_bind_eq_ok_iff.mp hrun
    obtain ⟨hcaller, hdone⟩ := run_require_bind_eq_ok_iff.mp hrest
    rw [run_set_bind] at hdone
    obtain ⟨rfl, rfl⟩ := Prod.mk.inj (run_pure_eq_ok_iff.mp hdone)
    exact Or.inr ⟨by simpa using hnone, hproject, hcaller, rfl, rfl⟩

theorem Ledger.isOpenAt_eq_true_iff {ρ : Type} {ledger : Ledger ρ} {id : Int} {row : ρ} :
    ledger.isOpenAt id row = true ↔ ledger.id row = id ∧ ledger.isOpen row = true := by
  simp [isOpenAt]

/-- Resolving a row settles the open rows of the id with a stored symbol. -/
theorem Ledger.resolve_cases {ρ : Type} {ledger : Ledger ρ} {rowId symbolId : Int}
    {store later : Store} {count : Nat}
    (hrun : (ledger.resolve rowId symbolId).run store = .ok (count, later)) :
    ((∀ row ∈ ledger.rows store, ledger.isOpenAt rowId row = false) ∧ count = 0 ∧ later = store) ∨
    ((∃ row ∈ ledger.rows store, ledger.isOpenAt rowId row = true) ∧
      store.hasSymbol symbolId = true ∧ count = 1 ∧
      later = ledger.put store
        (amendWhere (ledger.isOpenAt rowId) (ledger.settle · symbolId) (ledger.rows store))) := by
  unfold Ledger.resolve at hrun
  rw [run_get_bind] at hrun
  dsimp only at hrun
  split at hrun
  · rename_i hopen
    obtain ⟨hsymbol, hdone⟩ := run_require_bind_eq_ok_iff.mp hrun
    rw [run_set_bind] at hdone
    obtain ⟨rfl, rfl⟩ := Prod.mk.inj (run_pure_eq_ok_iff.mp hdone)
    exact Or.inr ⟨List.any_eq_true.mp hopen, hsymbol, rfl, rfl⟩
  · rename_i hclosed
    obtain ⟨rfl, rfl⟩ := Prod.mk.inj (run_pure_eq_ok_iff.mp hrun)
    refine Or.inl ⟨fun row hrow ↦ ?_, rfl, rfl⟩
    exact Bool.eq_false_iff.mpr fun hopen ↦ hclosed (List.any_eq_true.mpr ⟨row, hrow, hopen⟩)

/-! ### What a change preserves -/

/-- Whenever the change succeeds, the relation holds between the store before and the one after. -/
def Preserves (relation : Store → Store → Prop) (change : Change α) : Prop :=
  ∀ store value later, change.run store = .ok (value, later) → relation store later

/-- A preorder on stores. -/
structure IsPreorder (relation : Store → Store → Prop) : Prop where
  refl : ∀ store, relation store store
  trans : ∀ first second third, relation first second → relation second third →
    relation first third

/-- A preorder that writes to the rows of a file preserve. -/
structure KeptByFileWrites (relation : Store → Store → Prop) : Prop extends
    IsPreorder relation where
  upsertSymbol : ∀ file parentId declaration,
    Preserves relation (upsertSymbol file parentId declaration)
  upsertImport : ∀ file mention, Preserves relation (upsertImport file mention)
  insertCall : ∀ file callerId callee line,
    Preserves relation (insertCall file callerId callee line)

/-- A preorder that all writes preserve. -/
structure KeptByWrites (relation : Store → Store → Prop) : Prop extends
    KeptByFileWrites relation where
  ensureProject : ∀ name url, Preserves relation (ensureProject name url)
  resolveImport : ∀ importId symbolId,
    Preserves relation (Ledger.imports.resolve importId symbolId)
  resolveCall : ∀ callId symbolId, Preserves relation (Ledger.calls.resolve callId symbolId)

section Preserves

variable {relation : Store → Store → Prop}

theorem Preserves.pure (hrelation : IsPreorder relation) (value : α) :
    Preserves relation (pure value : Change α) := by
  intro store result later hrun
  obtain ⟨-, rfl⟩ := Prod.mk.inj (run_pure_eq_ok_iff.mp hrun)
  exact hrelation.refl later

theorem Preserves.get (hrelation : IsPreorder relation) :
    Preserves relation (get : Change Store) := by
  intro store result later hrun
  cases hrun
  exact hrelation.refl _

theorem Preserves.bind (hrelation : IsPreorder relation) {change : Change α} {next : α → Change β}
    (hchange : Preserves relation change) (hnext : ∀ value, Preserves relation (next value)) :
    Preserves relation (change >>= next) := by
  intro store result later hrun
  obtain ⟨value, middle, hfirst, hrest⟩ := run_bind_eq_ok_iff.mp hrun
  exact hrelation.trans _ _ _ (hchange store value middle hfirst)
    (hnext value middle result later hrest)

/-- What holds of the store, and of what the change leaves when it succeeds, holds after an
attempt. -/
theorem attempt_induct {holds : Store → Prop} {change : Change α} {store : Store}
    (hbefore : holds store)
    (hrun : ∀ value later, change.run store = .ok (value, later) → holds later) :
    holds (attempt change store).2 := by
  unfold Store.attempt
  split
  · rename_i value later hsuccess
    exact hrun value later hsuccess
  · exact hbefore

/-- What an attempt leaves behind is related to what it found, also when it failed. -/
theorem Preserves.attempt (hrelation : IsPreorder relation) {change : Change α}
    (hchange : Preserves relation change) (store : Store) :
    relation store (attempt change store).2 :=
  attempt_induct (hrelation.refl store) (hchange store)

theorem Preserves.total (hrelation : IsPreorder relation) {change : α → Change Nat}
    (hchange : ∀ element, Preserves relation (change element)) (elements : List α) :
    Preserves relation (total change elements) := by
  induction elements with
  | nil => exact .pure hrelation 0
  | cons element rest ih =>
    exact .bind hrelation (hchange element) fun first ↦ .bind hrelation ih fun others ↦
      .pure hrelation (first + others)

/-- Settling rows preserves what settling one row preserves. -/
theorem Preserves.resolveAll {ρ : Type} (hrelation : IsPreorder relation) {ledger : Ledger ρ}
    (hresolve : ∀ rowId symbolId, Preserves relation (ledger.resolve rowId symbolId))
    (pairs : List (Int × Int)) : Preserves relation (ledger.resolveAll pairs) := by
  unfold Ledger.resolveAll
  exact .total hrelation (fun pair ↦ hresolve pair.1 pair.2) pairs

/-- What a writer leaves behind is related to what it found, however the writer ends. -/
theorem KeptByFileWrites.runWriter (hrelation : KeptByFileWrites relation) (file : FileScope)
    (writer : FileWriter α) (store : Store) : relation store (runWriter file writer store).2 := by
  induction writer generalizing store with
  | finish result => exact hrelation.refl store
  | symbol parentId declaration next ih =>
    have hwrite := hrelation.upsertSymbol file parentId declaration
    exact hrelation.trans _ _ _ (hwrite.attempt hrelation.toIsPreorder store) (ih _ _)
  | imported mention next ih =>
    have hwrite := hrelation.upsertImport file mention
    exact hrelation.trans _ _ _ (hwrite.attempt hrelation.toIsPreorder store) (ih _ _)
  | call callerId callee line next ih =>
    have hwrite := hrelation.insertCall file callerId callee line
    exact hrelation.trans _ _ _ (hwrite.attempt hrelation.toIsPreorder store) (ih _ _)

theorem KeptByFileWrites.writeFile (hrelation : KeptByFileWrites relation) (file : FileScope)
    (writer : FileWriter α) : Preserves relation (writeFile file writer) := by
  intro store value later hrun
  have hwritten := hrelation.runWriter file writer store
  unfold Store.writeFile at hrun
  rw [StateT.run] at hrun
  split at hrun
  · rename_i result written hwriter
    obtain ⟨rfl, rfl⟩ := Prod.mk.inj (Except.ok.inj hrun)
    rw [hwriter] at hwritten
    exact hwritten
  · cases hrun

end Preserves

/-! ### Two changes that run alike -/

/-- From related stores, the changes both succeed, with values and stores that are related again, or
both fail for the same reason. -/
def RunsAlike (before : Store → Store → Prop) (change : Change α) (other : Change β)
    (after : α → β → Store → Store → Prop) : Prop :=
  ∀ store twin, before store twin →
    match change.run store, other.run twin with
    | .ok (value, later), .ok (image, laterTwin) => after value image later laterTwin
    | .error failure, .error same => failure = same
    | _, _ => False

section RunsAlike

variable {before : Store → Store → Prop}

theorem RunsAlike.pure {after : α → β → Store → Store → Prop} {value : α} {image : β}
    (hafter : ∀ store twin, before store twin → after value image store twin) :
    RunsAlike before (pure value : Change α) (pure image) after :=
  fun store twin hbefore ↦ hafter store twin hbefore

theorem RunsAlike.bind {γ δ : Type} {middle : α → β → Store → Store → Prop}
    {after : γ → δ → Store → Store → Prop} {change : Change α} {other : Change β}
    {next : α → Change γ} {nextOther : β → Change δ} (hfirst : RunsAlike before change other middle)
    (hnext : ∀ value image, RunsAlike (middle value image) (next value) (nextOther image) after) :
    RunsAlike before (change >>= next) (other >>= nextOther) after := by
  intro store twin hbefore
  have hmiddle := hfirst store twin hbefore
  rw [StateT.run_bind, StateT.run_bind]
  cases hrun : change.run store with
  | error failure =>
    cases hother : other.run twin with
    | error same =>
      rw [hrun, hother] at hmiddle
      exact hmiddle
    | ok result =>
      rw [hrun, hother] at hmiddle
      exact hmiddle.elim
  | ok result =>
    cases hother : other.run twin with
    | error same =>
      rw [hrun, hother] at hmiddle
      exact hmiddle.elim
    | ok image =>
      rw [hrun, hother] at hmiddle
      exact hnext result.1 image.1 result.2 image.2 hmiddle

/-- Changes that run alike and give the same values do so when they are attempted. -/
theorem RunsAlike.attempt {change other : Change α}
    (halike : RunsAlike before change other fun value image later twin ↦
      value = image ∧ before later twin) {store twin : Store} (hbefore : before store twin) :
    (attempt change store).1 = (attempt other twin).1 ∧
      before (attempt change store).2 (attempt other twin).2 := by
  have hafter := halike store twin hbefore
  unfold Store.attempt
  cases hrun : change.run store with
  | error failure =>
    cases hother : other.run twin with
    | error same =>
      rw [hrun, hother] at hafter
      exact ⟨congrArg Except.error hafter, hbefore⟩
    | ok result =>
      rw [hrun, hother] at hafter
      exact hafter.elim
  | ok result =>
    cases hother : other.run twin with
    | error same =>
      rw [hrun, hother] at hafter
      exact hafter.elim
    | ok image =>
      rw [hrun, hother] at hafter
      exact ⟨congrArg Except.ok hafter.1, hafter.2⟩

end RunsAlike

end SymbolGraph.Store
