import SymbolGraph.FileTree
import SymbolGraph.Path

/-!
# Files as a command sees them

A `Workspace` is a tree of files seen from a working directory in it. A path is absolute or begins
at the working directory; `place` is where it leads by its names alone, and `canonical?` the place
of something that exists, reached through directories that exist.
-/

set_option autoImplicit false

namespace SymbolGraph

/-- A tree of files and a directory in it. -/
structure Workspace where
  /-- The names from the root of the tree to the working directory. -/
  directory : List String
  files : FileTree

namespace Workspace

/-- A place as an absolute path. -/
def shown (place : List String) : String :=
  "/" ++ Text.join "/" place

/-- The place reached by one component of a path; the root is its own parent. -/
def follow (place : List String) : PathComponent String → List String
  | .root => []
  | .here => place
  | .up => place.dropLast
  | .name text => place ++ [text]

/-- The place that a path leads to. -/
def place (workspace : Workspace) (path : String) : List String :=
  (Path.components path).foldl follow workspace.directory

/-- The place reached from another along a path, if each step of it exists. -/
def reach? (files : FileTree) (place : List String) :
    List (PathComponent String) → Option (List String)
  | [] => some place
  | component :: rest =>
    let next := follow place component
    match files.find? next with
    | some _ => reach? files next rest
    | none => none

/-- The place of what a path leads to, if that exists. -/
def canonical? (workspace : Workspace) (path : String) : Option (List String) :=
  match Path.components path with
  | [] => none
  | components => reach? workspace.files workspace.directory components

/-- A file stands where a directory around a place should be. -/
def isObstructed (workspace : Workspace) (place : List String) : Bool :=
  (List.range place.length).any fun depth ↦
    (workspace.files.contentAt? (place.take depth)).isSome

/-- The workspace with the directories that a place lies in. -/
def withParents (workspace : Workspace) (place : List String) : Workspace :=
  { workspace with files := workspace.files.makeDirectory place.dropLast }

/-- The workspace with a file at a place. -/
def withFile (workspace : Workspace) (place : List String) (content : ByteArray) : Workspace :=
  { workspace with files := workspace.files.place place (.file content) }

end Workspace

end SymbolGraph
