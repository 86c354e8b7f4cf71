import SymbolGraph.Path

/-!
# Source languages

The languages whose files are read, told apart by the extension of the file.
-/

set_option autoImplicit false

namespace SymbolGraph

/-- A source language. -/
inductive Language where
  | javaScript
  | python
  deriving DecidableEq, Repr

namespace Language

/-- The name of a language in reports. -/
def text : Language → String
  | .javaScript => "javascript"
  | .python => "python"

/-- The extensions of a language's files. -/
def extensions : Language → List String
  | .javaScript => ["js", "jsx", "mjs", "cjs"]
  | .python => ["py", "pyi"]

/-- All languages, in the alphabetical order of their names. -/
def all : List Language :=
  [.javaScript, .python]

/-- The language of a file, by the extension of its path. -/
def ofPath? (path : String) : Option Language :=
  (Path.extension? path).bind fun extension ↦
    all.find? fun language ↦ language.extensions.contains extension

end Language

end SymbolGraph
