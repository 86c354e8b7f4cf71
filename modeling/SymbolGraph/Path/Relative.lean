import SymbolGraph.Text.Bytes
import SymbolGraph.Text.Split

/-!
# Paths inside a repository

Paths relative to a repository root are texts of segments separated by `/`. `join?` walks a relative
path from a directory and gives the place reached, or nothing when the walk leaves the repository or
ends at its root. `parent` is the directory a file lies in, and `matchesSuffix` compares whole
trailing segments.
-/

set_option autoImplicit false

namespace SymbolGraph.Path

/-- One step of a walk from a place, whose segments are listed innermost first. -/
def step (place : List String) (segment : String) : Option (List String) :=
  match segment with
  | "" => some place
  | "." => some place
  | ".." =>
    match place with
    | [] => none
    | _ :: outer => some outer
  | name => some (name :: place)

/-- The walk along a list of segments; nothing when it climbs above the root. -/
def walk (place : List String) : List String → Option (List String)
  | [] => some place
  | segment :: rest => (step place segment).bind fun next ↦ walk next rest

/-- The segments of a directory path that name something. -/
def segments (path : String) : List String :=
  (Text.split '/' path).filter fun segment ↦ segment ≠ "" ∧ segment ≠ "."

/-- The place reached from the directory `base` along `relative`, unless it is the repository root
or lies outside it. -/
def join? (base relative : String) : Option String :=
  match walk (segments base).reverse (Text.split '/' relative) with
  | none => none
  | some [] => none
  | some place => some (Text.join "/" place.reverse)

/-- The directory part of a path, empty at the root. -/
def parent (path : String) : String :=
  match Text.splitLast? '/' path with
  | some (directory, _) => directory
  | none => ""

/-- A text without the `./` steps it begins with. -/
def dropHere : List Char → List Char
  | '.' :: '/' :: rest => dropHere rest
  | text => text

/-- The bytes are more than those of an ending, end with them, and have a `/` just before them. -/
def endsBehindSlash (whole ending : List UInt8) : Bool :=
  if hlonger : ending.length < whole.length then
    ending.isSuffixOf whole && whole[whole.length - ending.length - 1] == '/'.toUInt8
  else false

/-- The path is the candidate, or ends with it after a `/`. Leading `./` steps of the candidate do
not count, and an empty candidate matches nothing. -/
def matchesSuffix (path candidate : String) : Bool :=
  match dropHere candidate.toList with
  | [] => false
  | wanted =>
    path.toList == wanted || endsBehindSlash (Text.bytes path.toList) (Text.bytes wanted)

end SymbolGraph.Path
