import SymbolGraph.Store.Ledger

/-!
# Writing to the store

Every row has a natural key: a project its URL, a symbol its project, file, parent and name, a call
its project, caller, callee and line, an import its project, file, source and name. Writing a row
whose key is taken amends the row instead of adding one (`upsertSymbol`, `upsertImport`) or leaves
it as it is (`insertCall`, `ensureProject`); a symbol never changes its kind, and a resolution is
never overwritten (`resolveImports`, `resolveCalls`).

An id that a row refers to must exist when the row is added. A symbol may name the id it is about to
get as its own parent.
-/

set_option autoImplicit false

namespace SymbolGraph

/-! ### Rows and their amendments -/

/-- The row with the signature and the span of a declaration. -/
def Symbol.takeOver (symbol : Symbol) (declaration : Declaration) : Symbol :=
  { symbol with signature := declaration.signature, span := declaration.span }

/-- The row with the binding and the line of a mention. -/
def Import.takeOver (entry : Import) (mention : ImportMention) : Import :=
  { entry with binding := mention.binding, line := mention.line }

namespace Store

/-! ### Operations -/

/-- Fails unless a referenced row exists. -/
def require (found : Bool) : Change Unit :=
  if found then pure () else throw .brokenReference

/-- The project stored for a URL, added under the given name if there is none. -/
def ensureProject (name url : String) : Change Project := do
  let store ← get
  match store.projects.find? fun project ↦ project.url == url with
  | some project => pure project
  | none =>
    let project : Project := { id := nextId (store.projects.map (·.id)), name, url }
    set { store with projects := store.projects ++ [project] }
    pure project

/-- The file of a project whose rows are written. -/
structure FileScope where
  projectId : Int
  filePath : String
  deriving DecidableEq, Repr

/-- The row holds the place of a symbol of this file, parent and name. -/
def FileScope.holdsSymbol (file : FileScope) (parentKey : Int) (name : String) (symbol : Symbol) :
    Bool :=
  symbol.projectId == file.projectId && symbol.filePath == file.filePath &&
    symbol.parentKey == parentKey && symbol.name == name

/-- The row holds the place of an import of this file, source and name. -/
def FileScope.holdsImport (file : FileScope) (source name : String) (entry : Import) : Bool :=
  entry.projectId == file.projectId && entry.filePath == file.filePath &&
    entry.source == source && entry.name == name

/-- The row holds the place of a call of this project, caller, callee and line. -/
def FileScope.holdsCall (file : FileScope) (callerId : Int) (callee : String) (line : Int)
    (call : Call) : Bool :=
  call.projectId == file.projectId && call.callerId == callerId && call.callee == callee &&
    call.line == line

/-- A new row for a declared symbol of this file. -/
def FileScope.newSymbol (file : FileScope) (id : Int) (parentId : Option Int)
    (declaration : Declaration) : Symbol where
  id := id
  projectId := file.projectId
  parentId := parentId
  filePath := file.filePath
  name := declaration.name
  kind := declaration.kind
  signature := declaration.signature
  span := declaration.span
  parentKey := parentId.getD 0

/-- A new row for an import of this file. -/
def FileScope.newImport (file : FileScope) (id : Int) (mention : ImportMention) : Import where
  id := id
  projectId := file.projectId
  filePath := file.filePath
  source := mention.source
  name := mention.name
  binding := mention.binding
  line := mention.line
  target := none
  isResolved := false

/-- A new row for a call in this file. -/
def FileScope.newCall (file : FileScope) (id callerId : Int) (callee : String) (line : Int) :
    Call where
  id := id
  projectId := file.projectId
  filePath := file.filePath
  callerId := callerId
  callee := callee
  line := line
  target := none

/-- Writes a declared symbol below a stored parent. A row of the same kind that holds its place
takes over the signature and the span; a row of another kind is a conflict. -/
def upsertSymbol (file : FileScope) (parentId : Option Int) (declaration : Declaration) :
    Change Int := do
  let store ← get
  let holds := file.holdsSymbol (parentId.getD 0) declaration.name
  match store.symbols.find? holds with
  | some existing =>
    if existing.kind = declaration.kind then
      set { store with symbols := amendWhere holds (·.takeOver declaration) store.symbols }
      pure existing.id
    else
      throw (.storageConflict file.filePath declaration.name existing.kind.text
        declaration.kind.text)
  | none =>
    let id := nextId (store.symbols.map (·.id))
    require (store.hasProject file.projectId)
    match parentId with
    | none => pure ()
    | some parent => require (parent == id || store.hasSymbol parent)
    set { store with symbols := store.symbols ++ [file.newSymbol id parentId declaration] }
    pure id

/-- Writes an import. A row that holds its place takes over the binding and the line, and keeps what
it stands for. -/
def upsertImport (file : FileScope) (mention : ImportMention) : Change Unit := do
  let store ← get
  let holds := file.holdsImport mention.source mention.name
  if store.imports.any holds then
    set { store with imports := amendWhere holds (·.takeOver mention) store.imports }
  else
    require (store.hasProject file.projectId)
    let id := nextId (store.imports.map (·.id))
    set { store with imports := store.imports ++ [file.newImport id mention] }

/-- Writes a call from a stored symbol, and tells whether it is new. -/
def insertCall (file : FileScope) (callerId : Int) (callee : String) (line : Int) :
    Change Bool := do
  let store ← get
  if store.calls.any (file.holdsCall callerId callee line) then
    pure false
  else
    require (store.hasProject file.projectId)
    require (store.hasSymbol callerId)
    let id := nextId (store.calls.map (·.id))
    set { store with calls := store.calls ++ [file.newCall id callerId callee line] }
    pure true

/-- Runs a change for each element and adds up the counts. -/
def total {α : Type} (change : α → Change Nat) : List α → Change Nat
  | [] => pure 0
  | element :: rest => do
    let first ← change element
    let others ← total change rest
    pure (first + others)

/-- Settles the row with an id, if it is still open; tells how many rows changed. -/
def Ledger.resolve {ρ : Type} (ledger : Ledger ρ) (rowId symbolId : Int) : Change Nat := do
  let store ← get
  let isOpen := ledger.isOpenAt rowId
  if (ledger.rows store).any isOpen then
    require (store.hasSymbol symbolId)
    set (ledger.put store (amendWhere isOpen (ledger.settle · symbolId) (ledger.rows store)))
    pure 1
  else
    pure 0

/-- Settles rows, given as pairs of a row and a symbol; tells how many rows changed. Rows that are
missing or settled already are left alone. -/
def Ledger.resolveAll {ρ : Type} (ledger : Ledger ρ) (pairs : List (Int × Int)) : Change Nat :=
  total (fun pair ↦ ledger.resolve pair.1 pair.2) pairs

/-- Settles imports, given as pairs of an import and a symbol. -/
def resolveImports (pairs : List (Int × Int)) : Change Nat :=
  Ledger.imports.resolveAll pairs

/-- Settles calls, given as pairs of a call and a symbol. -/
def resolveCalls (pairs : List (Int × Int)) : Change Nat :=
  Ledger.calls.resolveAll pairs

end Store

end SymbolGraph
