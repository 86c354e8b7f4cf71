import SymbolGraph.Store.Query

/-!
# Names inside one file

A `FileView` holds the symbols and imports of one file in source order and answers what a name means
there. `scopedNamed` follows lexical scope: from the innermost function outwards, passing over
classes, and at last the top level. `bestNamed` looks a name up without a scope, `enclosingClass`
finds the class around a symbol, and `resolvedImport` the symbol behind an imported name.
-/

set_option autoImplicit false

namespace SymbolGraph

/-- The symbols and imports of one file, in source order. -/
structure FileView where
  symbols : List Symbol
  imports : List Import
  deriving DecidableEq, Repr

/-- What the store knows about a file. -/
def Store.fileView (store : Store) (projectId : Int) (filePath : String) : FileView where
  symbols := store.symbolsInFile projectId filePath
  imports := store.importsInFile projectId filePath

namespace FileView

/-- The symbol of this file with an id. -/
def symbol? (file : FileView) (id : Int) : Option Symbol :=
  file.symbols.find? fun symbol ↦ symbol.id == id

/-- The file's own module symbol. -/
def moduleId? (file : FileView) : Option Int :=
  (file.symbols.find? fun symbol ↦ symbol.parentId.isNone && symbol.kind == .module).map (·.id)

/-- The symbol lies directly in the module, or has no parent at all. -/
def isTopLevel (file : FileView) (symbol : Symbol) : Bool :=
  symbol.parentId.isNone || symbol.parentId == file.moduleId?

/-- The symbol has the name and is no module. -/
def isNamed (name : String) (symbol : Symbol) : Bool :=
  symbol.name == name && symbol.kind != .module

/-- The top-level symbol of a name, or else the earliest one. -/
def bestNamed (file : FileView) (name : String) : Option Symbol :=
  (file.symbols.find? fun symbol ↦ isNamed name symbol && file.isTopLevel symbol).or
    (file.symbols.find? (isNamed name))

/-- The earliest symbol of a name directly inside another. -/
def childNamed (file : FileView) (parentId : Int) (name : String) : Option Symbol :=
  file.symbols.find? fun symbol ↦ symbol.parentId == some parentId && symbol.name == name

/-- The symbol and those around it, innermost first, up to a number of levels. -/
def chain (file : FileView) : Nat → Option Symbol → List Symbol
  | 0, _ => []
  | _, none => []
  | levels + 1, some symbol => symbol :: file.chain levels (symbol.parentId.bind file.symbol?)

/-- The symbol with an id and all those around it, innermost first. The chain is never longer than
the file has symbols, unless a symbol lies inside itself. -/
def enclosing (file : FileView) (id : Int) : List Symbol :=
  file.chain (file.symbols.length + 1) (file.symbol? id)

/-- Declarations inside the symbol are visible by their bare name from within it. -/
def opensScope (symbol : Symbol) : Bool :=
  symbol.kind != .classType && symbol.kind != .module

/-- What a bare name means inside a symbol: a declaration of the innermost function around that has
one, or else a top-level declaration. -/
def scopedNamed (file : FileView) (name : String) (sourceId : Int) : Option Symbol :=
  ((file.enclosing sourceId).findSome? fun symbol ↦
      if opensScope symbol then file.childNamed symbol.id name else none).or
    (file.symbols.find? fun symbol ↦ isNamed name symbol && file.isTopLevel symbol)

/-- The nearest class around a symbol, which may be the symbol itself. -/
def enclosingClass (file : FileView) (id : Int) : Option Symbol :=
  (file.enclosing id).find? fun symbol ↦ symbol.kind == .classType

/-- The symbol behind the first resolved import of a local name. -/
def resolvedImport (file : FileView) (name : String) : Option Int :=
  (file.imports.find? fun entry ↦ entry.isResolved && entry.localName == name).bind (·.target)

end FileView

end SymbolGraph
