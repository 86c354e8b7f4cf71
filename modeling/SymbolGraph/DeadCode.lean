import SymbolGraph.Pattern.Glob
import SymbolGraph.Pattern.Regex
import SymbolGraph.Store.Query

/-!
# Symbols that nothing calls

`DeadCode.find` lists the functions, methods and classes of a project that no resolved call reaches,
leaving out names that the language calls by itself and files that hold tests or are excluded.
`DeadCode.select` is that rule for arbitrary predicates; `DeadCode.find` takes the predicates from a
regular expression and from path globs.
-/

set_option autoImplicit false

namespace SymbolGraph

/-- What to leave out of a dead-code report, and how much of it to show. -/
structure DeadCodeOptions where
  limit : Nat
  /-- Names that are never reported, as a regular expression. -/
  magicPattern : String
  /-- Files that hold tests, as globs. -/
  testPatterns : List String
  /-- Further files to leave out, as globs. -/
  exclude : List String
  deriving DecidableEq, Repr

/-- The symbols that nothing calls. -/
structure DeadCodeReport where
  symbols : List SymbolSummary
  /-- How many there are before the limit is applied. -/
  total : Nat
  truncated : Bool
  deriving DecidableEq, Repr

namespace DeadCode

/-- Names with underscores at both ends, and constructors: they are called by the language, never by
name. -/
def defaultMagicPattern : String :=
  "^(?:_\x7b1,2\x7d[A-Za-z0-9]+(?:_[A-Za-z0-9]+)*_\x7b1,2\x7d|constructor)$"

/-- Any path with the word test in it. -/
def defaultTestPatterns : List String := ["*test*"]

/-- The kinds of symbols that can be called. -/
def candidateKinds : List String := ["function", "method", "class"]

/-- What a dead-code report does not claim. -/
def caveat : String :=
  "Candidates only: no resolved call reaches these functions, methods or classes, but they may " ++
    "still be used through dynamic dispatch, reflection, framework hooks or external callers. " ++
    "Variables and modules are never reported."

/-- The options that apply unless others are asked for. -/
def defaultOptions (limit : Nat) : DeadCodeOptions where
  limit := limit
  magicPattern := defaultMagicPattern
  testPatterns := defaultTestPatterns
  exclude := []

/-- The first `limit` uncalled symbols whose name is not magic and whose file is not excluded. -/
def select (store : Store) (projectId : Int) (isMagic isExcluded : String → Bool) (limit : Nat) :
    DeadCodeReport :=
  let candidates := ((store.uncalledSymbols projectId candidateKinds).filter fun symbol ↦
    !isMagic symbol.name && !isExcluded symbol.filePath).map Symbol.summary
  { symbols := candidates.take limit,
    total := candidates.length,
    truncated := limit < candidates.length }

/-- The globs of a list of patterns; the first malformed one is an error. -/
def globs : List String → Except GraphError (List Glob)
  | [] => .ok []
  | text :: rest =>
    match Glob.parse false text with
    | .error fault =>
      .error (.invalidPattern text ("error parsing glob '" ++ text ++ "': " ++ fault.message))
    | .ok glob => (globs rest).map fun others ↦ glob :: others

/-- The symbols of a project that nothing calls. A malformed expression is reported before a
malformed glob, and test patterns before exclusions. -/
def find (store : Store) (projectId : Int) (options : DeadCodeOptions) :
    Except GraphError DeadCodeReport :=
  match Regex.parse? options.magicPattern with
  | none => .error (.invalidPattern options.magicPattern "malformed expression")
  | some magic =>
    (globs (options.testPatterns ++ options.exclude)).map fun excluded ↦
      select store projectId (fun name ↦ Regex.isMatch magic name)
        (fun path ↦ excluded.any fun glob ↦ glob.matchesPath path) options.limit

end DeadCode

end SymbolGraph
