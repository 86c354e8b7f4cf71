import SymbolGraph.Extraction

/-!
# JavaScript syntax trees

A `Tree` keeps of a program what an extraction can speak of: calls, functions, classes, declarators
and imports, in source order and nested as they are written. Everything else is left out, and its
parts stand in its place; only the value of a declarator or of a field is told from its parts, since
a function or a call by itself means more there. What a tree says is what is written: which
declarators name functions, load modules or are variables is up to the extraction.
-/

set_option autoImplicit false

namespace SymbolGraph.JavaScript

/-- An entry of a pattern in braces that takes a member under its own name. -/
structure PatternEntry where
  key : String
  /-- What the member is bound to, when the entry says so. -/
  binding : Option String

/-- What a declarator binds. -/
inductive Target where
  | identifier (name : Label)
  /-- A pattern in braces. -/
  | braces (entries : List PatternEntry)
  /-- Any other pattern. -/
  | other

/-- An item of an `import` statement. -/
inductive ImportItem where
  /-- A name of the module, with the local name when another one is given. -/
  | named (name : String) (binding : Option String)
  /-- The module as a whole. -/
  | whole (binding : String)

/-- The parameters of a function as they are written. -/
inductive WrittenParameters where
  /-- In parentheses, which are part of the text. -/
  | enclosed (text : String)
  /-- A single name without parentheses. -/
  | bare (name : Label)

mutual

/-- The parts of a program. -/
inductive Tree where
  /-- A call, an instantiation or a tagged template; the parts of the callee come before those of
  the arguments. The text of the first argument is kept when it is known to be a string, except in
  an instantiation. -/
  | call (callee : String) (argument : Option String) (line : Int) (parts : List Tree)
  /-- The declaration of a function. -/
  | functionDeclaration (name : Label) (extent : Extent) (function : Function)
  /-- A function that is a value, whether it has a name or not. -/
  | functionValue (function : Function)
  /-- A class, with the parts of its decorators aside. -/
  | classDefinition (name : Option Label) (extent : Extent) (aside heritage : List Tree)
      (elements : List ClassElement)
  /-- A declared name or pattern and its value, with the parts of the pattern aside. -/
  | declarator (target : Target) (extent : Extent) (aside : List Tree) (value : Option Tree)
  /-- An `import` statement, without items when the module is only run; the parts of its attributes
  are aside. -/
  | imports (source : String) (items : Option (List ImportItem)) (line : Int) (aside : List Tree)
  /-- A value that is something else. -/
  | group (parts : List Tree)

/-- A function: its parameters as they are written, and the parts in them and in its body. -/
structure Function where
  written : WrittenParameters
  parameters : List Tree
  body : List Tree

/-- An element of a class. The parts of its decorators and of its name, which only a computed name
has, are aside. -/
inductive ClassElement where
  | method (name : String) (extent : Extent) (aside : List Tree) (function : Function)
  | field (name : String) (extent : Extent) (aside : List Tree) (value : Option Tree)
  /-- A block that runs once. -/
  | block (parts : List Tree)

end

end SymbolGraph.JavaScript
