import SymbolGraph.Python.Parser.Statement
import SymbolGraph.Python.Token.Lexer

/-!
# Reading Python programs

`parse?` is the syntax tree of a program, if it has one. The rules of the grammar call one another
through nested constructs, and every such call comes after a token that was taken; so the number of
tokens bounds how deep the calls nest.
-/

set_option autoImplicit false

namespace SymbolGraph.Python

namespace Parser

/-- One rule, given the parsers for the rules nested in it. -/
def step (self : Rule → Parser Operand) : Rule → Parser Operand
  | .expression => expression self
  | .operand => operand self
  | .pattern => pattern self
  | .statement level => .plain <$> statement self level

/-- A rule, nested at most to the given depth. -/
def ofRule : Nat → Rule → Parser Operand
  | 0, _ => failure
  | depth + 1, rule => step (ofRule depth) rule

/-- A whole program. -/
def program (depth : Nat) : Parser (List Tree) := do
  let lines ← repeatWhile (do return !(← get).tokens.isEmpty)
    (statementAt (ofRule depth) 0)
  return lines.flatten

end Parser

/-- The syntax tree of a program, absent when the text is no program. -/
def parse? (source : String) : Option (List Tree) :=
  let tokens := Token.ofSource source
  ((Parser.program (tokens.length + 1)).run ⟨source, tokens, .origin, ⟨0, []⟩⟩).map (·.1)

end SymbolGraph.Python
