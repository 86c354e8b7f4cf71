import SymbolGraph.JavaScript.Specifier
import SymbolGraph.Path.Relative
import SymbolGraph.Python.ModuleName
import SymbolGraph.Resolution.Pages

/-!
# Resolving imports

An import is resolved to a symbol of its name in one of the files that its module may mean.
Candidate files are tried in order, and for one candidate the symbols in the order of
`Store.symbolsNamed`, so that the shortest path wins (`pickCandidate`). `Resolution.imports`
settles all open imports of a project, page by page in id order; the symbols of a name are looked
up once a run.
-/

set_option autoImplicit false

namespace SymbolGraph

/-- The files that may declare a name imported from a module, most likely first. -/
def Language.importCandidates (language : Language) (importingFile source name : String) :
    List String :=
  match language with
  | .python => Python.ModuleName.candidates source name
  | .javaScript => JavaScript.Specifier.candidates importingFile source

namespace Resolution

/-- The first symbol in a candidate file, trying the candidates in order. A symbol is given by its
id and its file. -/
def pickCandidate (candidates : List String) (symbols : List (Int × String)) : Option Int :=
  candidates.findSome? fun candidate ↦
    (symbols.find? fun symbol ↦ Path.matchesSuffix symbol.2 candidate).map (·.1)

/-- What an import stands for among the symbols of its name. -/
def importTarget (entry : Import) (symbols : List Symbol) : Option Int :=
  match Language.ofPath? entry.filePath with
  | none => none
  | some language =>
    pickCandidate (language.importCandidates entry.filePath entry.source entry.name)
      (symbols.map fun symbol ↦ (symbol.id, symbol.filePath))

/-- The symbols looked up so far, by name. -/
abbrev NameCache := List (String × List Symbol)

/-- The symbols of a name, from the cache or else from the store. -/
def lookUpName (store : Store) (projectId : Int) (cache : NameCache) (name : String) :
    List Symbol × NameCache :=
  match cache.lookup name with
  | some symbols => (symbols, cache)
  | none =>
    let symbols := store.symbolsNamed projectId name
    (symbols, (name, symbols) :: cache)

/-- What an import stands for, by a look-up that remembers the symbols of a name. -/
def cachedImportTarget (projectId : Int) (store : Store) (entry : Import) (cache : NameCache) :
    Option Int × NameCache :=
  let (symbols, later) := lookUpName store projectId cache entry.name
  (importTarget entry symbols, later)

/-- Resolves the open imports of a project, `size` of them at a time. -/
def imports (projectId : Int) (size : Nat) : Store.Change ResolutionStats :=
  settleAll .imports (cachedImportTarget projectId) projectId size []

end Resolution

end SymbolGraph
