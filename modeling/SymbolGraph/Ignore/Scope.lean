import SymbolGraph.FileTree
import SymbolGraph.Ignore.Rule
import SymbolGraph.Text.Split

/-!
# Ignore files in force

Three files of a directory hold ignore rules for what lies below it: `.ignore`, `.gitignore` and
`.git/info/exclude`. An `IgnoreScope` is such a directory, seen from a place below it. For each of
the three kinds the nearest directory that decides about an entry is heard, and `.ignore` files are
heard before `.gitignore` files, those before exclude files (`IgnoreScope.isIgnored`).
-/

set_option autoImplicit false

namespace SymbolGraph

/-- The rules of a directory's ignore files. -/
structure IgnoreFiles where
  /-- The rules of `.ignore`. -/
  own : List IgnoreRule
  /-- The rules of `.gitignore`. -/
  git : List IgnoreRule
  /-- The rules of `.git/info/exclude`. -/
  exclude : List IgnoreRule

/-- The rules of a directory. -/
def IgnoreFiles.ofDirectory (directory : FileTree) : IgnoreFiles :=
  let rules := fun path ↦
    match directory.contentAt? path with
    | some content => IgnoreRule.ofContent content
    | none => []
  { own := rules [".ignore"],
    git := rules [".gitignore"],
    exclude := rules [".git", "info", "exclude"] }

/-- A directory whose ignore files are in force, and the place they are looked up from. -/
structure IgnoreScope where
  files : IgnoreFiles
  /-- The names from the directory to the place. -/
  place : List String

namespace IgnoreScope

/-- The scope of a directory, seen from the directory itself. -/
def ofDirectory (directory : FileTree) : IgnoreScope :=
  ⟨.ofDirectory directory, []⟩

/-- The scope seen from an entry of the place. -/
def enter (name : String) (scope : IgnoreScope) : IgnoreScope :=
  { scope with place := scope.place ++ [name] }

/-- The path of an entry of the place, seen from the directory. -/
def pathTo (scope : IgnoreScope) (name : String) : String :=
  Text.join "/" (scope.place ++ [name])

/-- What the nearest scope with an opinion decides about an entry, in files of one kind. -/
def verdict? (kind : IgnoreFiles → List IgnoreRule) (scopes : List IgnoreScope) (name : String)
    (isDirectory : Bool) : Option IgnoreVerdict :=
  scopes.findSome? fun scope ↦
    IgnoreRule.verdict? (kind scope.files) (scope.pathTo name) isDirectory

/-- An entry is ignored under the scopes in force, the nearest first. -/
def isIgnored (scopes : List IgnoreScope) (name : String) (isDirectory : Bool) : Bool :=
  let heard := verdict? (·.own) scopes name isDirectory <|>
    verdict? (·.git) scopes name isDirectory <|> verdict? (·.exclude) scopes name isDirectory
  heard == some .ignored

end IgnoreScope

end SymbolGraph
