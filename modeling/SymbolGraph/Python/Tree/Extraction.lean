import SymbolGraph.Python.Tree

/-!
# Extraction from a Python syntax tree

`Tree.extract` adds what a tree declares and mentions. Bases of classes, decorators and parameters
are part of the symbol around a definition, and only the body is inside it. Type parameters and
return annotations are left out. A function whose nearest definition around it is a class is a
method, and an assignment declares a variable only outside all definitions.
-/

set_option autoImplicit false

namespace SymbolGraph.Python

/-- Where a tree stands. -/
structure Scope where
  /-- The tag of the symbol around it. -/
  owner : Nat
  /-- That symbol is a class. -/
  inClass : Bool
  /-- That symbol is the module. -/
  atModule : Bool
  deriving DecidableEq, Repr

namespace Scope

/-- Outside all definitions. -/
def top : Scope := ⟨0, false, true⟩

/-- In the body of a function. -/
def ofFunction (tag : Nat) : Scope := ⟨tag, false, false⟩

/-- In the body of a class. -/
def ofClass (tag : Nat) : Scope := ⟨tag, true, false⟩

/-- The kind of a function defined here. -/
def functionKind (scope : Scope) : SymbolKind :=
  if scope.inClass then .method else .function

end Scope

/-- Adds the modules of an `import` statement. Without a name after `as`, a dotted name binds the
whole of it. -/
def ImportedModule.extract (line : Int) (extraction : Extraction) (module : ImportedModule) :
    Extraction :=
  let binding := module.binding <|>
    if module.leaf.text = module.path then none else some module.path
  extraction.addImports module.path [⟨module.leaf, binding⟩] line

mutual

/-- Adds what a tree declares and mentions in a file of the given package. -/
def Tree.extract (package : List String) (scope : Scope) (extraction : Extraction) :
    Tree → Extraction
  | .call callee line parts =>
    extractAll package scope (extraction.addCall scope.owner callee line) parts
  | .function name signature extent _ parameters _ body =>
    let outside := extractAll package scope extraction parameters
    extractAll package (.ofFunction outside.nextTag)
      (outside.declare scope.owner scope.functionKind name.toLabel (some signature) extent) body
  | .classDefinition name extent _ bases body =>
    let outside := extractAll package scope extraction bases
    extractAll package (.ofClass outside.nextTag)
      (outside.declare scope.owner .classType name.toLabel none extent) body
  | .assignment name extent parts =>
    let declared :=
      if scope.atModule then extraction.declare scope.owner .variable name.toLabel none extent
      else extraction
    extractAll package scope declared parts
  | .importModules modules line => modules.foldl (ImportedModule.extract line) extraction
  | .importNames source names line =>
    extraction.addImports ((ModuleName.absolute? source package).getD source) names line

/-- Adds what trees declare and mention, one after the other. -/
def extractAll (package : List String) (scope : Scope) (extraction : Extraction) :
    List Tree → Extraction
  | [] => extraction
  | tree :: rest => extractAll package scope (tree.extract package scope extraction) rest

end

/-- What a program declares and mentions, given the path of its file. -/
def extraction (path source : String) (program : List Tree) : Extraction :=
  let moduleName := ModuleName.ofPath path
  extractAll (ModuleName.package path moduleName) .top
    (.ofModule (ModuleName.leaf moduleName) source) program

end SymbolGraph.Python
