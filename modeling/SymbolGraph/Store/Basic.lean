import SymbolGraph.Error
import SymbolGraph.Extraction

/-!
# The store

A `Store` holds what is known about any number of projects in four tables: projects, symbols,
imports and calls. Rows are only ever added or amended, so a table lists its rows by ascending id,
and a new row takes the id after the last one (`nextId`).

Writing operations have the type `Store.Change`: they give a value and the changed store, or an
error and no store at all, so that an operation that fails leaves nothing behind.
-/

set_option autoImplicit false

namespace SymbolGraph

/-- A repository whose symbols are stored. -/
structure Project where
  id : Int
  name : String
  /-- The URL by which the project is found again. -/
  url : String
  deriving DecidableEq, Repr

/-- A stored symbol. -/
structure Symbol where
  id : Int
  projectId : Int
  /-- The symbol around this one, absent for a file's module. -/
  parentId : Option Int
  filePath : String
  name : String
  kind : SymbolKind
  signature : Option String
  span : Span
  /-- The parent as part of the symbol's key, where zero stands for no parent. -/
  parentKey : Int := parentId.getD 0
  deriving DecidableEq, Repr

/-- A stored import. -/
structure Import where
  id : Int
  projectId : Int
  /-- The importing file. -/
  filePath : String
  source : String
  name : String
  binding : Option String
  line : Int
  /-- The symbol the import stands for, once it is known. -/
  target : Option Int
  /-- The import is settled, and what it stands for is not looked up again. -/
  isResolved : Bool := false
  deriving DecidableEq, Repr

/-- A stored call. -/
structure Call where
  id : Int
  projectId : Int
  /-- The calling file. -/
  filePath : String
  /-- The symbol around the call. -/
  callerId : Int
  callee : String
  line : Int
  /-- The symbol that is called, once it is known. -/
  target : Option Int
  deriving DecidableEq, Repr

/-- The name by which the importing file refers to what it imports. -/
def Import.localName (entry : Import) : String :=
  entry.binding.getD entry.name

/-- The parts of a symbol that reports show. -/
structure SymbolSummary where
  id : Int
  kind : String
  name : String
  filePath : String
  startLine : Int
  signature : Option String
  deriving DecidableEq, Repr

/-- The summary of a symbol. -/
def Symbol.summary (symbol : Symbol) : SymbolSummary where
  id := symbol.id
  kind := symbol.kind.text
  name := symbol.name
  filePath := symbol.filePath
  startLine := symbol.span.startLine
  signature := symbol.signature

/-- All that is known, about any number of projects. -/
structure Store where
  projects : List Project
  symbols : List Symbol
  imports : List Import
  calls : List Call
  deriving DecidableEq, Repr

namespace Store

/-- The store before anything is known. -/
def empty : Store where
  projects := []
  symbols := []
  imports := []
  calls := []

/-- An operation that reads and changes the store; when it fails, there is no changed store. -/
abbrev Change (α : Type) := StateT Store (Except GraphError) α

/-- The answer of an operation, and the store after it, which is the same one when it fails. -/
def attempt {α : Type} (change : Change α) (store : Store) : Except GraphError α × Store :=
  match change.run store with
  | .ok (value, next) => (.ok value, next)
  | .error failure => (.error failure, store)

/-- The id for a new row: one more than the largest in use. -/
def nextId (ids : List Int) : Int :=
  ids.foldl max 0 + 1

/-- The rows of a table, those that pass a test amended in their places. -/
def amendWhere {α : Type} (test : α → Bool) (amend : α → α) (rows : List α) : List α :=
  rows.map fun row ↦ if test row then amend row else row

/-- The project exists. -/
def hasProject (store : Store) (id : Int) : Bool :=
  store.projects.any fun project ↦ project.id == id

/-- The symbol with an id. -/
def symbol? (store : Store) (id : Int) : Option Symbol :=
  store.symbols.find? fun symbol ↦ symbol.id == id

/-- The symbol exists. -/
def hasSymbol (store : Store) (id : Int) : Bool :=
  store.symbols.any fun symbol ↦ symbol.id == id

end Store

end SymbolGraph
