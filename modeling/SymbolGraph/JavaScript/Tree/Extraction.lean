import SymbolGraph.JavaScript.Specifier
import SymbolGraph.JavaScript.Tree

/-!
# Extraction from a JavaScript syntax tree

`Tree.extract` adds what a tree declares and mentions. Parameters and the class that a class extends
are part of the symbol around a definition, and only the body is inside it. Functions that are
values and classes without a name are no symbols: what they hold belongs to the symbol around them,
but is no longer at the level of the module, where alone variables and loaded modules are recorded.

A function is declared also by a declarator with a plain name and a function as its value, and by a
member of a named class whose name is neither quoted nor computed (`Function.extract`). A declarator
of the module whose value is the call `require` of a string is an import (`required?`).
-/

set_option autoImplicit false

namespace SymbolGraph.JavaScript

/-- Where a tree stands. -/
structure Scope where
  /-- The tag of the symbol around it. -/
  owner : Nat
  /-- No function and no class is around it. -/
  atModule : Bool
  deriving DecidableEq, Repr

namespace Scope

/-- Outside all definitions. -/
def top : Scope := ⟨0, true⟩

/-- In the body of a symbol. -/
def inside (tag : Nat) : Scope := ⟨tag, false⟩

/-- In something without a name. -/
def nameless (scope : Scope) : Scope := ⟨scope.owner, false⟩

end Scope

/-! ### Names -/

/-- The name of a member as a label, unless it is quoted or computed. -/
def plainName? (name : String) : Option Label :=
  match name.toList with
  | '[' :: _ | '"' :: _ | '\'' :: _ => none
  | _ => Label.ofString? name

/-- A name taken from a module, if it is not empty. -/
def importedName? (name : String) (binding : Option String) : Option ImportedName :=
  (Label.ofString? name).map (⟨·, binding⟩)

/-- The module as a whole, under the name that its specifier gives it. -/
def wholeModule? (source : String) (binding : Option String) : Option ImportedName :=
  importedName? (Specifier.stem source) binding

/-- The names that a declarator binds when it loads a module: an identifier binds the module as a
whole, a pattern in braces binds members. -/
def Target.importedNames? (source : String) : Target → Option (List ImportedName)
  | .identifier name => some (wholeModule? source (some name.text)).toList
  | .braces entries => some (entries.filterMap fun entry ↦ importedName? entry.key entry.binding)
  | .other => none

/-- The name that an item of an `import` statement brings in. -/
def ImportItem.importedName? (source : String) : ImportItem → Option ImportedName
  | .named name binding => JavaScript.importedName? name binding
  | .whole binding => wholeModule? source (some binding)

/-- The names that an `import` statement brings in. Without items it takes the module as a whole. -/
def importedNames (source : String) : Option (List ImportItem) → List ImportedName
  | none => (wholeModule? source none).toList
  | some items => items.filterMap (ImportItem.importedName? source)

/-- A module that a declarator loads. -/
structure Required where
  source : String
  names : List ImportedName
  line : Int

/-- The module that a declarator loads: its value is the call `require` of a string. -/
def required? (target : Target) : Option Tree → Option Required
  | some (.call "require" (some source) line _) =>
    (target.importedNames? source).map (⟨source, ·, line⟩)
  | _ => none

/-! ### The walk -/

/-- The signature of a function with the given parameters. -/
def WrittenParameters.signature : WrittenParameters → String
  | .enclosed text => SymbolGraph.signature text
  | .bare name => SymbolGraph.signature ("(" ++ name.text ++ ")")

/-- Adds the variable that a declarator declares, if it is one of the module. -/
def declareVariable (scope : Scope) (target : Target) (extent : Extent)
    (extraction : Extraction) : Extraction :=
  match target, scope.atModule with
  | .identifier name, true => extraction.declare scope.owner .variable name none extent
  | _, _ => extraction

mutual

/-- Adds what a tree declares and mentions. -/
def Tree.extract (scope : Scope) (extraction : Extraction) : Tree → Extraction
  | .call callee _ line parts =>
    extractAll scope (extraction.addCall scope.owner callee line) parts
  | .functionDeclaration name extent function =>
    function.extract scope .function name extent extraction
  | .functionValue function => function.extractParts scope.nameless extraction
  | .classDefinition (some name) extent _ heritage elements =>
    let outside := extractAll scope extraction heritage
    extractElements outside.nextTag
      (outside.declare scope.owner .classType name none extent) elements
  | .classDefinition none _ _ heritage elements =>
    extractElementParts scope.nameless (extractAll scope extraction heritage) elements
  | .declarator (.identifier name) extent _ (some (.functionValue function)) =>
    function.extract scope .function name extent extraction
  | .declarator target extent _ value =>
    match scope.atModule, required? target value with
    | true, some required => extraction.addImports required.source required.names required.line
    | _, _ => extractValue scope (declareVariable scope target extent extraction) value
  | .imports source items line _ =>
    if source = "" then extraction
    else extraction.addImports source (importedNames source items) line
  | .group parts => extractAll scope extraction parts

/-- Adds a function of the given kind and name with what it declares and mentions. -/
def Function.extract (scope : Scope) (kind : SymbolKind) (name : Label) (extent : Extent)
    (extraction : Extraction) : Function → Extraction
  | ⟨written, parameters, body⟩ =>
    let outside := extractAll scope extraction parameters
    extractAll (.inside outside.nextTag)
      (outside.declare scope.owner kind name (some written.signature) extent) body

/-- Adds what the parts of a function declare and mention. -/
def Function.extractParts (scope : Scope) (extraction : Extraction) : Function → Extraction
  | ⟨_, parameters, body⟩ => extractAll scope (extractAll scope extraction parameters) body

/-- Adds what a value declares and mentions, if there is one. -/
def extractValue (scope : Scope) (extraction : Extraction) : Option Tree → Extraction
  | none => extraction
  | some value => value.extract scope extraction

/-- Adds what an element of the class with the tag `owner` declares and mentions. -/
def ClassElement.extract (owner : Nat) (extraction : Extraction) : ClassElement → Extraction
  | .method name extent aside function =>
    match plainName? name with
    | some label => function.extract (.inside owner) .method label extent extraction
    | none => function.extractParts (.inside owner) (extractAll (.inside owner) extraction aside)
  | .field name extent _ value =>
    match plainName? name, value with
    | some label, some (.functionValue function) =>
      function.extract (.inside owner) .method label extent extraction
    | _, value => extractValue (.inside owner) extraction value
  | .block parts => extractAll (.inside owner) extraction parts

/-- Adds what the parts of an element of a class without a name declare and mention. -/
def ClassElement.extractParts (scope : Scope) (extraction : Extraction) :
    ClassElement → Extraction
  | .method _ _ aside function =>
    function.extractParts scope (extractAll scope extraction aside)
  | .field _ _ aside value => extractValue scope (extractAll scope extraction aside) value
  | .block parts => extractAll scope extraction parts

/-- Adds what trees declare and mention, one after the other. -/
def extractAll (scope : Scope) (extraction : Extraction) : List Tree → Extraction
  | [] => extraction
  | tree :: rest => extractAll scope (tree.extract scope extraction) rest

/-- Adds what the elements of a class declare and mention, one after the other. -/
def extractElements (owner : Nat) (extraction : Extraction) : List ClassElement → Extraction
  | [] => extraction
  | element :: rest => extractElements owner (element.extract owner extraction) rest

/-- Adds what the elements of a class without a name declare and mention, one after the other. -/
def extractElementParts (scope : Scope) (extraction : Extraction) :
    List ClassElement → Extraction
  | [] => extraction
  | element :: rest => extractElementParts scope (element.extractParts scope extraction) rest

end

/-- What a program declares and mentions, given the path of its file. -/
def extraction (path source : String) (program : List Tree) : Extraction :=
  extractAll .top (.ofModule (Specifier.stem path) source) program

end SymbolGraph.JavaScript
