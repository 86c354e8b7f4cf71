import SymbolGraph.Order
import SymbolGraph.Path.Relative
import SymbolGraph.Store.Ledger

/-!
# Questions to the store

Look-ups answer in stated orders. Symbols of one name come with the shortest path first
(`Store.symbolsNamed`), symbols and imports of one file in source order (`symbolsInFile`,
`importsInFile`), open imports and calls page by page in id order (`openImports`, `openCalls`), the
call sites of given callees by file, line and caller (`callersOf`), and the symbols that nothing
calls by file and name (`uncalledSymbols`).
-/

set_option autoImplicit false

namespace SymbolGraph

/-- A resolved call as seen from its callee. -/
structure CallerEdge where
  calleeId : Int
  caller : SymbolSummary
  /-- The file of the call. -/
  filePath : String
  line : Int
  deriving DecidableEq, Repr

/-- How many imports or calls there are, how many of them are resolved, and how many were resolved
just now. -/
structure ResolutionStats where
  total : Nat
  resolved : Nat
  newlyResolved : Nat
  deriving DecidableEq, Repr

/-- The counts of a project. -/
structure ProjectOverview where
  project : Project
  files : Nat
  symbols : Nat
  /-- The kinds that occur, by name, with their counts. -/
  symbolsByKind : List (String × Nat)
  imports : ResolutionStats
  calls : ResolutionStats
  deriving DecidableEq, Repr

/-- Shortest path first, then by path, line and id. -/
def Symbol.compareByDistance (left right : Symbol) : Ordering :=
  (compare left.filePath.length right.filePath.length).then <|
  (compare left.filePath right.filePath).then <|
  (compare left.span.startLine right.span.startLine).then <|
  compare left.id right.id

/-- By line, then by id. -/
def Symbol.compareByLine (left right : Symbol) : Ordering :=
  (compare left.span.startLine right.span.startLine).then <|
  compare left.id right.id

/-- By file, name and id. -/
def Symbol.compareByName (left right : Symbol) : Ordering :=
  (compare left.filePath right.filePath).then <|
  (compare left.name right.name).then <|
  compare left.id right.id

/-- By line, then by id. -/
def Import.compareByLine (left right : Import) : Ordering :=
  (compare left.line right.line).then <|
  compare left.id right.id

/-- By the file and line of the call, the caller, the callee and the call's id. -/
def Call.compareBySite (left right : Call) : Ordering :=
  (compare left.filePath right.filePath).then <|
  (compare left.line right.line).then <|
  (compare left.callerId right.callerId).then <|
  (compare (left.target.getD 0) (right.target.getD 0)).then <|
  compare left.id right.id

namespace Store

/-- The project stored for a URL. -/
def findProject? (store : Store) (url : String) : Option Project :=
  store.projects.find? fun project ↦ project.url == url

/-- The project stored for a URL, which must be there. -/
def requireProject (store : Store) (url : String) : Except GraphError Project :=
  match store.findProject? url with
  | some project => .ok project
  | none => .error (.projectNotIndexed url)

/-- The symbols of a name, those in the shortest path first. -/
def symbolsNamed (store : Store) (projectId : Int) (name : String) : List Symbol :=
  sortBy Symbol.compareByDistance <|
    store.symbols.filter fun symbol ↦ symbol.projectId == projectId && symbol.name == name

/-- The symbols of a name, narrowed to the files that a path names when one is given. -/
def findSymbols (store : Store) (projectId : Int) (name : String) (file : Option String) :
    List Symbol :=
  let named := store.symbolsNamed projectId name
  match file with
  | none => named
  | some path => named.filter fun symbol ↦ Path.matchesSuffix symbol.filePath path

/-- The symbols of a file in source order. -/
def symbolsInFile (store : Store) (projectId : Int) (filePath : String) : List Symbol :=
  sortBy Symbol.compareByLine <|
    store.symbols.filter fun symbol ↦
      symbol.projectId == projectId && symbol.filePath == filePath

/-- The imports of a file in source order. -/
def importsInFile (store : Store) (projectId : Int) (filePath : String) : List Import :=
  sortBy Import.compareByLine <|
    store.imports.filter fun entry ↦ entry.projectId == projectId && entry.filePath == filePath

/-- The first `limit` open imports of a project with an id above `after`, in id order. -/
def openImports (store : Store) (projectId after : Int) (limit : Nat) : List Import :=
  Ledger.imports.openRows store projectId after limit

/-- The first `limit` open calls of a project with an id above `after`, in id order. -/
def openCalls (store : Store) (projectId after : Int) (limit : Nat) : List Call :=
  Ledger.calls.openRows store projectId after limit

/-- How far the rows of a project are resolved. -/
def Ledger.stats {ρ : Type} (ledger : Ledger ρ) (store : Store) (projectId : Int) :
    ResolutionStats :=
  let rows := (ledger.rows store).filter fun row ↦ ledger.projectId row == projectId
  { total := rows.length,
    resolved := rows.countP fun row ↦ !ledger.isOpen row,
    newlyResolved := 0 }

/-- How far the imports of a project are resolved. -/
def importStats (store : Store) (projectId : Int) : ResolutionStats :=
  Ledger.imports.stats store projectId

/-- How far the calls of a project are resolved. -/
def callStats (store : Store) (projectId : Int) : ResolutionStats :=
  Ledger.calls.stats store projectId

/-- The edge of a resolved call. -/
def callerEdge? (store : Store) (call : Call) : Option CallerEdge :=
  match call.target, store.symbol? call.callerId with
  | some calleeId, some caller =>
    some { calleeId, caller := caller.summary, filePath := call.filePath, line := call.line }
  | _, _ => none

/-- The project's call sites of some callees, by file, line and caller. -/
def callersOfEach (store : Store) (projectId : Int) (calleeIds : List Int) : List CallerEdge :=
  let calls := store.calls.filter fun call ↦
    call.projectId == projectId && calleeIds.any fun id ↦ call.target == some id
  (sortBy Call.compareBySite calls).filterMap store.callerEdge?

/-- How many callees are looked up at once. -/
def calleePage : Nat := 500

/-- The list cut into pages of `size + 1` elements. -/
def pagesOf {α : Type} (size : Nat) (elements : List α) : List (List α) :=
  match elements with
  | [] => []
  | first :: rest => (first :: rest.take size) :: pagesOf size (rest.drop size)
termination_by elements.length
decreasing_by
  simp only [List.length_drop, List.length_cons]
  omega

/-- The project's call sites of the callees, looked up page by page: within a page by file, line and
caller, each site once for every callee it reaches. -/
def callersOf (store : Store) (projectId : Int) (calleeIds : List Int) : List CallerEdge :=
  (pagesOf (calleePage - 1) calleeIds).flatMap (store.callersOfEach projectId)

/-- A resolved call of any project reaches the symbol. -/
def isCalled (store : Store) (id : Int) : Bool :=
  store.calls.any fun call ↦ call.target == some id

/-- The project's symbols of the named kinds that no resolved call reaches, by file, name and id. -/
def uncalledSymbols (store : Store) (projectId : Int) (kinds : List String) : List Symbol :=
  sortBy Symbol.compareByName <|
    store.symbols.filter fun symbol ↦
      symbol.projectId == projectId && kinds.contains symbol.kind.text &&
        !store.isCalled symbol.id

/-- The counts of a project. -/
def overview (store : Store) (project : Project) : ProjectOverview :=
  let symbols := store.symbols.filter fun symbol ↦ symbol.projectId == project.id
  let kinds := SymbolKind.all.map fun kind ↦
    (kind.text, symbols.countP fun symbol ↦ symbol.kind = kind)
  { project,
    files := (symbols.map (·.filePath)).eraseDups.length,
    symbols := symbols.length,
    symbolsByKind := kinds.filter fun entry ↦ entry.2 ≠ 0,
    imports := store.importStats project.id,
    calls := store.callStats project.id }

end Store

end SymbolGraph
