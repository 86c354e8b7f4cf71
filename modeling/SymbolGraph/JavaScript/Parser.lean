import SymbolGraph.JavaScript.Parser.Statement

/-!
# Reading JavaScript programs

`parse?` is the syntax tree of a program, if it has one. The rules of the grammar call one another
through nested constructs, and every such call comes after a character that was taken; so the size
of the program bounds how deep the calls nest.
-/

set_option autoImplicit false

namespace SymbolGraph.JavaScript

open Text (Cursor)

namespace Parser

/-- One rule, given the parsers for the rules nested in it. -/
def step (self : Rule → Parser Operand) : Rule → Parser Operand
  | .expression => expression self
  | .operand => operand self
  | .pattern => pattern self
  | .statement => .plain <$> statement self
  | .markup => markup self

/-- A rule, nested at most to the given depth. -/
def ofRule : Nat → Rule → Parser Operand
  | 0, _ => failure
  | depth + 1, rule => step (ofRule depth) rule

/-- A whole program. -/
def program (depth : Nat) : Parser (List Tree) := do
  let statements ← repeatWhile (return !(← sees .finish)) (ofRule depth .statement)
  if ← sees .finish then return Operand.allParts statements else failure

/-- The text after the line that names the interpreter, if there is one. -/
def afterInterpreter (source : Cursor) : Cursor :=
  if source.startsWith "#!" then source.dropWhile (· ≠ '\n') else source

end Parser

/-- The syntax tree of a program, absent when the text is no program. -/
def parse? (source : String) : Option (List Tree) :=
  let start := Parser.afterInterpreter (.ofString source)
  let size := start.size + 1
  ((Parser.program size).run ⟨source, .read start, start, start.place, 2 * size⟩).map (·.1)

end SymbolGraph.JavaScript
