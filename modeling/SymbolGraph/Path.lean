import SymbolGraph.Text.Bytes
import SymbolGraph.Text.Split

/-!
# File paths

A path consists of parts between slashes. Repeated and trailing slashes add nothing, nor does `.`
except at the very front of a relative path. `componentsOf` is that reading.

The file system knows a path as bytes, which need not be a text (`RawPath`). Its normal form is the
text that its named and `..` components are shown as, so that two spellings of one relative path
have one normal form, and `relativeTo?` strips the components of a root. Most paths are texts
already: `Path` reads them as strings. `stem?` and `extension?` split the file name at its last dot,
unless that dot is its first character.
-/

set_option autoImplicit false

namespace SymbolGraph

/-- One component of a path. -/
inductive PathComponent (Name : Type) where
  /-- The `/` an absolute path begins with. -/
  | root
  /-- A `.` at the front of a relative path. -/
  | here
  /-- A `..`. -/
  | up
  /-- Any other name. -/
  | name (text : Name)
  deriving DecidableEq, Repr

/-- How the parts of a path are written that are no names. -/
class PathPart (Part : Type) where
  /-- What stands between two slashes that follow each other. -/
  nothing : Part
  /-- The part `.`. -/
  here : Part
  /-- The part `..`. -/
  up : Part

instance : PathPart String where
  nothing := ""
  here := "."
  up := ".."

instance : PathPart (List UInt8) where
  nothing := []
  here := Text.bytes ['.']
  up := Text.bytes ['.', '.']

namespace Path

section Components

variable {Part : Type} [DecidableEq Part] [PathPart Part]

/-- How a part that leads somewhere is read. -/
def component (part : Part) : PathComponent Part :=
  if part = PathPart.up then .up else .name part

/-- The parts that lead somewhere. -/
def steps (parts : List Part) : List Part :=
  parts.filter fun part ↦ part ≠ PathPart.nothing ∧ part ≠ PathPart.here

/-- The mark at the front of a path: it is absolute, or begins with a `.`. -/
def front : List Part → List (PathComponent Part)
  | [] => []
  | [part] => if part = PathPart.here then [.here] else []
  | part :: _ :: _ =>
    if part = PathPart.nothing then [.root] else if part = PathPart.here then [.here] else []

/-- The components of a path, in order, from its parts between slashes. -/
def componentsOf (parts : List Part) : List (PathComponent Part) :=
  front parts ++ (steps parts).map component

/-- The components left after a leading list of components is taken away. -/
def stripPrefix? : List (PathComponent Part) → List (PathComponent Part) →
    Option (List (PathComponent Part))
  | [], rest => some rest
  | _ :: _, [] => none
  | first :: others, part :: rest => if first = part then stripPrefix? others rest else none

end Components

/-- How a component is written in a normal form; the root and `.` are not written. -/
def written? : PathComponent String → Option String
  | .name text => some text
  | .up => some ".."
  | .root => none
  | .here => none

/-- The normal form of a list of components; a path without any is `.`. -/
def ofComponents (parts : List (PathComponent String)) : String :=
  match parts.filterMap written? with
  | [] => "."
  | names => Text.join "/" names

end Path

/-! ### Paths of the file system -/

/-- A path as the file system has it. -/
abbrev RawPath := List UInt8

namespace RawPath

/-- The byte between the parts of a path. -/
def slash : UInt8 := '/'.toUInt8

/-- A path that is a text. -/
def ofText (path : String) : RawPath :=
  Text.bytes path.toList

/-- The components of a path, in order. -/
def components (path : RawPath) : List (PathComponent (List UInt8)) :=
  Path.componentsOf (Text.pieces slash path)

/-- A part as it is shown. -/
def shownPart (part : List UInt8) : String :=
  String.ofList (Text.lossy part)

/-- A component as it is shown. -/
def shown : PathComponent (List UInt8) → PathComponent String
  | .root => .root
  | .here => .here
  | .up => .up
  | .name part => .name (shownPart part)

/-- The normal form of a path. -/
def normalize (path : RawPath) : String :=
  Path.ofComponents (path.components.map shown)

/-- The normal form of a path as seen from a root it lies under. -/
def relativeTo? (root path : RawPath) : Option String :=
  (Path.stripPrefix? root.components path.components).map fun rest ↦
    Path.ofComponents (rest.map shown)

/-- The URL of a path in the file system. -/
def fileUrl (path : RawPath) : String :=
  match path.components with
  | .root :: _ => "file:///" ++ path.normalize
  | _ => "file://" ++ path.normalize

end RawPath

/-! ### Paths that are texts -/

namespace Path

/-- The components of a path, in order. -/
def components (path : String) : List (PathComponent String) :=
  componentsOf (Text.split '/' path)

/-- The normal form of a path. -/
def normalize (path : String) : String :=
  (RawPath.ofText path).normalize

/-- The normal form of a path as seen from a root it lies under. -/
def relativeTo? (root path : String) : Option String :=
  (RawPath.ofText root).relativeTo? (RawPath.ofText path)

/-- The last component, when it is a name. -/
def fileName? (path : String) : Option String :=
  match (components path).getLast? with
  | some (.name text) => some text
  | _ => none

/-- A file name cut at its last dot; a name whose only dot is its first character has no cut. -/
def cutExtension (name : String) : String × Option String :=
  match Text.splitLast? '.' name with
  | some (before, after) => if before = "" then (name, none) else (before, some after)
  | none => (name, none)

/-- The file name without its extension. -/
def stem? (path : String) : Option String :=
  (fileName? path).map fun name ↦ (cutExtension name).1

/-- The text after the last dot of the file name. -/
def extension? (path : String) : Option String :=
  (fileName? path).bind fun name ↦ (cutExtension name).2

/-- The URL of a path in the file system. -/
def fileUrl (path : String) : String :=
  (RawPath.ofText path).fileUrl

end Path

end SymbolGraph
