/-!
# Commands

What can be asked of the program: to store a repository, to show what calls a symbol, to list
symbols that nothing calls, and to count what is stored. Options that were not given are absent;
the program's settings then apply.
-/

set_option autoImplicit false

namespace SymbolGraph

/-- How the callers of a symbol are shown. -/
inductive ImpactFormat where
  | text
  | json
  /-- Nodes and edges. -/
  | graph
  /-- A drawing for Graphviz. -/
  | dot
  deriving DecidableEq, Repr

/-- The word for a format. -/
def ImpactFormat.word : ImpactFormat → String
  | .text => "text"
  | .json => "json"
  | .graph => "graph"
  | .dot => "dot"

/-- All formats. -/
def ImpactFormat.all : List ImpactFormat :=
  [.text, .json, .graph, .dot]

/-- How a list of symbols is shown. -/
inductive ListFormat where
  | text
  | json
  deriving DecidableEq, Repr

/-- The word for a format. -/
def ListFormat.word : ListFormat → String
  | .text => "text"
  | .json => "json"

/-- All formats. -/
def ListFormat.all : List ListFormat :=
  [.text, .json]

/-- Which stored project a command is about. -/
structure ProjectOptions where
  /-- The directory of the repository. -/
  repository : String
  /-- The file of the store. -/
  storePath : Option String
  /-- The URL the project is stored under. -/
  url : Option String
  deriving DecidableEq, Repr

/-- How a repository is stored. -/
structure IngestOptions where
  /-- The name of a project that is new. -/
  name : Option String
  /-- Ignore files are not heeded. -/
  noIgnore : Bool
  /-- How many files may be read at the same time. -/
  workers : Option Nat
  deriving DecidableEq, Repr

/-- Whose callers are shown, and how. -/
structure ImpactOptions where
  symbol : String
  /-- The file that declares the symbol. -/
  file : Option String
  depth : Option Nat
  format : ImpactFormat
  deriving DecidableEq, Repr

/-- Which uncalled symbols are listed, and how. -/
structure UnusedOptions where
  limit : Option Nat
  exclude : List String
  testPatterns : List String
  format : ListFormat
  deriving DecidableEq, Repr

/-- What is asked. -/
inductive Request where
  | ingest (options : IngestOptions)
  | impact (options : ImpactOptions)
  | unused (options : UnusedOptions)
  | overview
  deriving DecidableEq, Repr

/-- A request about a project. -/
structure Command where
  project : ProjectOptions
  request : Request
  /-- Which messages are logged. -/
  logLevel : String
  deriving DecidableEq, Repr

end SymbolGraph
