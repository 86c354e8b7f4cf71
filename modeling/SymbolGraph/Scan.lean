import SymbolGraph.Ignore.Scope
import SymbolGraph.Language
import SymbolGraph.Order

/-!
# The source files of a repository

A scan walks a repository and lists the files of the supported languages, in the order of their
paths. Directories of tools, dependencies and build results are not entered, nor are files read
whose name begins with a dot; ignore files are heeded unless the scan is told otherwise. None of
this concerns the repository's root itself.
-/

set_option autoImplicit false

namespace SymbolGraph

/-- A source file found by a scan. -/
structure ScannedFile where
  /-- The path from the root of the repository. -/
  path : String
  language : Language
  content : ByteArray

namespace ScannedFile

/-- The size in bytes. -/
def size (file : ScannedFile) : Nat :=
  file.content.size

/-- The text of the file, when its bytes are valid text. -/
def text? (file : ScannedFile) : Option String :=
  String.fromUTF8? file.content

end ScannedFile

namespace Scan

/-- Names of directories that are never entered: version control and editor settings, dependencies,
build results, virtual environments. -/
def passedOver : List String :=
  [".git", ".hg", ".svn", ".github", ".idea", ".vscode", ".codeseer", "node_modules",
   "site-packages", "vendor", "__pycache__", "build", "dist", "target", "venv", ".venv", "env",
   ".env", ".tox", ".mypy_cache"]

/-- A file whose name begins with a dot. -/
def isHidden (name : String) : Bool :=
  ['.'].isPrefixOf name.toList

/-- A file of a supported language. -/
def sourceFile? (path : String) (content : ByteArray) : Option ScannedFile :=
  (Language.ofPath? path).map fun language ↦ { path, language, content }

/-- The scopes inside a directory, which adds its own ignore files. -/
def scopesInside (directory : FileTree) (scopes : List IgnoreScope) : List IgnoreScope :=
  .ofDirectory directory :: scopes

mutual

/-- The source files at an entry of a directory. Ignore files are in force in the scopes, unless
there are none; `place` are the names from the root to the directory. -/
def entry (scopes : Option (List IgnoreScope)) (place : List String) (name : String) :
    FileTree → List ScannedFile
  | .file content =>
    if isHidden name || (scopes.any fun known ↦ IgnoreScope.isIgnored known name false) then []
    else (sourceFile? (Text.join "/" (place ++ [name])) content).toList
  | .directory entries =>
    if passedOver.contains name || (scopes.any fun known ↦ IgnoreScope.isIgnored known name true)
    then []
    else
      let inside := scopes.map fun known ↦
        scopesInside (.directory entries) (known.map (·.enter name))
      entryList inside (place ++ [name]) entries

/-- The source files at the entries of a directory. -/
def entryList (scopes : Option (List IgnoreScope)) (place : List String) :
    List (String × FileTree) → List ScannedFile
  | [] => []
  | (name, tree) :: rest => entry scopes place name tree ++ entryList scopes place rest

end

/-- The source files of a repository whose root has a name. A root that is a file is listed as the
path `.`. The scopes are those of the directories above it; without any, no ignore file is
heeded. -/
def files (above : Option (List IgnoreScope)) (rootName : String) : FileTree → List ScannedFile
  | .file content =>
    (Language.ofPath? rootName).toList.map fun language ↦ { path := ".", language, content }
  | .directory entries =>
    let scopes := above.map (scopesInside (.directory entries))
    sortBy (fun first second ↦ compare first.path second.path) (entryList scopes [] entries)

end Scan

end SymbolGraph
