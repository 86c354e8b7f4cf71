/-!
# Trees of files

A `FileTree` is a file with its bytes, or a directory with named entries. `find?` follows a path of
names, `place` puts a tree at a path and makes the directories on the way, and `remove` takes an
entry away. What is placed is found again (`find?_place`).
-/

set_option autoImplicit false

namespace SymbolGraph

/-- A file or a directory. -/
inductive FileTree where
  | file (content : ByteArray)
  | directory (entries : List (String × FileTree))
  deriving Inhabited

namespace FileTree

/-- A directory without entries. -/
def emptyDirectory : FileTree :=
  .directory []

/-- The entries of a directory; a file has none. -/
def entries : FileTree → List (String × FileTree)
  | .file _ => []
  | .directory entries => entries

/-- The tree is a directory. -/
def isDirectory : FileTree → Bool
  | .file _ => false
  | .directory _ => true

/-- The bytes of a file. -/
def content? : FileTree → Option ByteArray
  | .file content => some content
  | .directory _ => none

/-- What stands at a path of names. -/
def find? (tree : FileTree) : List String → Option FileTree
  | [] => some tree
  | name :: rest => (tree.entries.lookup name).bind fun entry ↦ entry.find? rest

/-- The bytes of the file at a path of names. -/
def contentAt? (tree : FileTree) (path : List String) : Option ByteArray :=
  (tree.find? path).bind content?

/-- The text of the file at a path of names, when its bytes are valid text. -/
def textAt? (tree : FileTree) (path : List String) : Option String :=
  (tree.contentAt? path).bind String.fromUTF8?

/-- The entries with one of them set. -/
def setEntry (name : String) (tree : FileTree) :
    List (String × FileTree) → List (String × FileTree)
  | [] => [(name, tree)]
  | (other, entry) :: rest =>
    if name = other then (name, tree) :: rest else (other, entry) :: setEntry name tree rest

/-- The tree with another tree at a path of names. Directories on the way are made, and a file on
the way gives way to a directory. -/
def place (tree : FileTree) (path : List String) (placed : FileTree) : FileTree :=
  match path with
  | [] => placed
  | name :: rest =>
    let inner := (tree.entries.lookup name).getD emptyDirectory
    .directory (setEntry name (inner.place rest placed) tree.entries)

/-- The tree with a directory at a path of names, which stays as it is when it is there. -/
def makeDirectory (tree : FileTree) (path : List String) : FileTree :=
  match tree.find? path with
  | some (.directory _) => tree
  | _ => tree.place path emptyDirectory

/-- The tree without the entry at a path of names. -/
def remove (tree : FileTree) : List String → FileTree
  | [] => tree
  | [name] =>
    match tree with
    | .file content => .file content
    | .directory entries => .directory (entries.filter fun entry ↦ entry.1 ≠ name)
  | name :: rest =>
    match tree.entries.lookup name with
    | none => tree
    | some inner => .directory (setEntry name (inner.remove rest) tree.entries)

/-- The entry that was set is the one looked up. -/
theorem lookup_setEntry (name : String) (tree : FileTree) (entries : List (String × FileTree)) :
    (setEntry name tree entries).lookup name = some tree := by
  induction entries with
  | nil => simp [setEntry]
  | cons first rest ih =>
    obtain ⟨other, entry⟩ := first
    by_cases same : name = other
    · simp [setEntry, same]
    · have different : (name == other) = false := by simpa using same
      simpa [setEntry, same, List.lookup_cons, different] using ih

/-- What is placed at a path is found there. -/
theorem find?_place (tree : FileTree) (path : List String) (placed : FileTree) :
    (tree.place path placed).find? path = some placed := by
  induction path generalizing tree with
  | nil => rfl
  | cons name rest ih => simp [place, find?, entries, lookup_setEntry, ih]

end FileTree

end SymbolGraph
