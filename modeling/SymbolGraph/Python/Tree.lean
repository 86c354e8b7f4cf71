import SymbolGraph.Extraction
import SymbolGraph.Python.ModuleName

/-!
# Python syntax trees

A `Tree` keeps of a program what an extraction can speak of: calls, definitions, assignments to one
plain identifier and imports, in source order and nested as they are written. Everything else is
left out, and its parts stand in its place.
-/

set_option autoImplicit false

namespace SymbolGraph.Python

/-- A module named by an `import` statement. -/
structure ImportedModule where
  /-- The dotted name as it is written. -/
  path : String
  /-- The last part of the dotted name. -/
  leaf : Label
  leaf_eq : leaf.text = ModuleName.leaf path
  /-- The name after `as`. -/
  binding : Option String

/-- A name of one part. -/
structure Identifier extends Label where
  undotted : '.' ∉ text.toList
  deriving DecidableEq, Repr

/-- The identifier with a given text. -/
def Identifier.ofString? (text : String) : Option Identifier :=
  if proper : text ≠ "" ∧ '.' ∉ text.toList then some ⟨⟨text, proper.1⟩, proper.2⟩ else none

/-- The parts of a program. -/
inductive Tree where
  /-- A call of a function that is written as `callee`; the parts of the function come before those
  of the arguments. -/
  | call (callee : String) (line : Int) (parts : List Tree)
  | function (name : Identifier) (signature : String) (extent : Extent)
      (typeParameters parameters returns body : List Tree)
  | classDefinition (name : Identifier) (extent : Extent) (typeParameters bases body : List Tree)
  /-- A statement that assigns to one plain identifier or annotates it. -/
  | assignment (name : Identifier) (extent : Extent) (parts : List Tree)
  | importModules (modules : List ImportedModule) (line : Int)
  /-- Names taken from the module that is written as `source`. -/
  | importNames (source : String) (names : List ImportedName) (line : Int)

end SymbolGraph.Python
