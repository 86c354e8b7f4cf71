import SymbolGraph.Proofs.Store.WellFormed

/-!
# What writes answer

A write to the rows of a file looks at one thing, the row that holds the place. When there is one,
the answer is known without looking at what the row refers to (`upsertSymbol_run_of_taken`); when
there is none, a row is added, provided that the project and what the row refers to are stored
(`upsertSymbol_run_of_free`). Imports and calls are written the same way (`upsertImport_run`,
`insertCall_run`). These lemmas tell the whole run, failures included, where the lemmas on changes
that succeed take a run apart.
-/

set_option autoImplicit false
set_option relaxedAutoImplicit false

namespace SymbolGraph.Store

variable {file : FileScope} {store : Store}

/-- What follows a requirement runs when it is met. -/
theorem run_require_bind {α : Type} (found : Bool) (next : Change α) (store : Store) :
    (require found >>= fun _ ↦ next).run store =
      if found then next.run store else .error .brokenReference := by
  cases found with
  | false => rfl
  | true => rfl

/-! ### Symbols -/

/-- The store with the row of a symbol overwritten. -/
def amendSymbol (file : FileScope) (parentId : Option Int) (declaration : Declaration)
    (store : Store) : Store :=
  { store with
    symbols := amendWhere (file.holdsSymbol (parentId.getD 0) declaration.name)
      (·.takeOver declaration) store.symbols }

/-- The store with a row for a new symbol. -/
def addSymbol (file : FileScope) (parentId : Option Int) (declaration : Declaration)
    (store : Store) : Store :=
  { store with
    symbols := store.symbols ++
      [file.newSymbol (nextId (store.symbols.map (·.id))) parentId declaration] }

/-- A symbol whose place is taken takes over the row, unless the row is of another kind. -/
theorem upsertSymbol_run_of_taken {parentId : Option Int} {declaration : Declaration}
    {existing : Symbol} (hfound : store.symbols.find?
      (file.holdsSymbol (parentId.getD 0) declaration.name) = some existing) :
    (upsertSymbol file parentId declaration).run store =
      if existing.kind = declaration.kind then
        .ok (existing.id, store.amendSymbol file parentId declaration)
      else
        .error (.storageConflict file.filePath declaration.name existing.kind.text
          declaration.kind.text) := by
  unfold upsertSymbol
  rw [run_get_bind]
  dsimp only
  rw [hfound]
  dsimp only
  split
  · rfl
  · rfl

/-- A symbol whose place is free is added below a stored parent when its project is stored. -/
theorem upsertSymbol_run_of_free {parentId : Option Int} {declaration : Declaration}
    (hfree : store.symbols.find? (file.holdsSymbol (parentId.getD 0) declaration.name) = none)
    (hparent : ∀ parent, parentId = some parent → store.hasSymbol parent = true) :
    (upsertSymbol file parentId declaration).run store =
      if store.hasProject file.projectId then
        .ok (nextId (store.symbols.map (·.id)), store.addSymbol file parentId declaration)
      else .error .brokenReference := by
  unfold upsertSymbol
  rw [run_get_bind]
  dsimp only
  rw [hfree]
  dsimp only
  rw [run_require_bind]
  cases parentId with
  | none => rfl
  | some parent =>
    dsimp only
    rw [run_require_bind, hparent parent rfl, Bool.or_true]
    rfl

/-! ### Imports and calls -/

/-- The store with the row of an import overwritten. -/
def amendImport (file : FileScope) (mention : ImportMention) (store : Store) : Store :=
  { store with
    imports := amendWhere (file.holdsImport mention.source mention.name) (·.takeOver mention)
      store.imports }

/-- The store with a row for a new import. -/
def addImport (file : FileScope) (mention : ImportMention) (store : Store) : Store :=
  { store with
    imports := store.imports ++
      [file.newImport (nextId (store.imports.map (·.id))) mention] }

/-- The store with a row for a new call. -/
def addCall (file : FileScope) (callerId : Int) (callee : String) (line : Int) (store : Store) :
    Store :=
  { store with
    calls := store.calls ++
      [file.newCall (nextId (store.calls.map (·.id))) callerId callee line] }

theorem upsertImport_run (file : FileScope) (mention : ImportMention) (store : Store) :
    (upsertImport file mention).run store =
      if store.imports.any (file.holdsImport mention.source mention.name) then
        .ok ((), store.amendImport file mention)
      else if store.hasProject file.projectId then .ok ((), store.addImport file mention)
      else .error .brokenReference := by
  unfold upsertImport
  rw [run_get_bind]
  dsimp only
  split
  · rfl
  · rw [run_require_bind]
    rfl

/-- A stored call is not written again. -/
theorem insertCall_run_of_stored {callerId line : Int} {callee : String}
    (hstored : store.calls.any (file.holdsCall callerId callee line) = true) :
    (insertCall file callerId callee line).run store = .ok (false, store) := by
  unfold insertCall
  rw [run_get_bind, if_pos hstored]
  rfl

/-- A call from a stored symbol is added when it is new and its project is stored. -/
theorem insertCall_run {callerId : Int} (hcaller : store.hasSymbol callerId = true)
    (callee : String) (line : Int) :
    (insertCall file callerId callee line).run store =
      if store.calls.any (file.holdsCall callerId callee line) then .ok (false, store)
      else if store.hasProject file.projectId then
        .ok (true, store.addCall file callerId callee line)
      else .error .brokenReference := by
  unfold insertCall
  rw [run_get_bind]
  dsimp only
  split
  · rfl
  · rw [run_require_bind, run_require_bind, hcaller]
    rfl

end SymbolGraph.Store
