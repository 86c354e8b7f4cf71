import SymbolGraph.Python.Parser.Expression

/-!
# Python statements

A statement is one or more simple statements on a line, or a compound statement with suites. The
suite after a colon is the rest of the line, or the block of lines that are indented further than
the block around the statement; when no such line follows, the suite is empty. A block ends before
a line with a smaller indentation than its own, and takes in the comments before that line up to
the first one that is indented less (`block`).
-/

set_option autoImplicit false

namespace SymbolGraph.Python.Parser

open Text (Place)

section Grammar

variable (self : Rule → Parser Operand)

/-! ### Assignments -/

/-- The symbols that assign after computing. -/
def augmentedSymbols : List String :=
  ["+=", "-=", "*=", "/=", "//=", "%=", "@=", "**=", ">>=", "<<=", "&=", "^=", "|="]

/-- What follows a left side: values assigned to it, at most the given number of times, and an
annotation. -/
def assigned : Nat → Operand → Parser (List Tree)
  | 0, left => return left.parts
  | count + 1, left => do
    if left.form.isTarget then
      if (← seesSymbol "=") || (← seesSymbolOf augmentedSymbols) then
        let _ ← next
        let right ← yieldOrList self
        return left.parts ++ (← assigned count right)
      else if ← acceptSymbol ":" then
        let type ← self .expression
        if ← acceptSymbol "=" then
          let right ← yieldOrList self
          return left.parts ++ type.parts ++ (← assigned count right)
        else return left.parts ++ type.parts
      else return left.parts
    else return left.parts

/-- A statement that is an expression or an assignment. -/
def expressionStatement : Parser (List Tree) := do
  let start ← here
  let left ← yieldOrList self
  let assigns ← seesSymbolOf ["=", ":"]
  let parts ← assigned self (← get).tokens.length left
  match left.form, assigns with
  | .identifier name, true => return [.assignment name ⟨start, ← last⟩ parts]
  | _, _ => return parts

/-! ### Imports -/

/-- A dotted name, as it is written. -/
def dottedName : Parser String := do
  let start ← here
  let _ ← word
  let _ ← repeatWhile (seesSymbol ".") do
    expectSymbol "."
    let _ ← word
  textSince start

/-- The name after `as`, if there is one. -/
def binding : Parser (Option String) := do
  if ← acceptWord "as" then return some (← word).text else return none

/-- A module in an `import` statement. -/
def importedModule : Parser ImportedModule := do
  let path ← dottedName
  let binding ← binding
  if leaf_ne : ModuleName.leaf path ≠ "" then
    return ⟨path, ⟨ModuleName.leaf path, leaf_ne⟩, rfl, binding⟩
  else failure

/-- A name in an `import` statement. -/
def importedName : Parser ImportedName := do
  let name : Option Label := Label.ofString? (← dottedName)
  return ⟨← name, ← binding⟩

/-- The names of an `import` statement, none for a star. -/
def importedNames : Parser (List ImportedName) := do
  if ← acceptSymbol "*" then return []
  else if ← acceptSymbol "(" then separatedUntil ")" importedName
  else separated (do return (← peek?) matches some (.name _)) importedName

/-- The dots before the name of a relative module. -/
def relativeDots : Parser Bool := do
  let dots ← repeatWhile (seesSymbolOf [".", "..."]) next
  return !dots.isEmpty

/-- An `import` statement, or a `from … import` statement; one that turns on features of the
language takes no names from a module. -/
def importStatement : Parser (List Tree) := do
  let start ← here
  if ← acceptWord "import" then
    let modules ← separated (do return (← peek?) matches some (.name _)) importedModule
    return [.importModules modules (start.row + 1)]
  else
    expectWord "from"
    let moduleStart ← here
    let relative ← relativeDots
    if !(relative && (← seesWord "import")) then let _ ← dottedName
    let source ← textSince moduleStart
    expectWord "import"
    let names ← importedNames
    if source = "__future__" then return []
    else return [.importNames source names (start.row + 1)]

/-! ### Simple statements -/

/-- Expressions with commas between them, if any. -/
def optionalList (stops : List String) : Parser (List Tree) := do
  if (← seesOperand) && !(← seesWordOf stops) then return (← expressionList self).parts
  else return []

/-- A `raise` statement. -/
def raiseStatement : Parser (List Tree) := do
  expectWord "raise"
  let raised ← optionalList self ["from"]
  if ← acceptWord "from" then return raised ++ (← self .expression).parts else return raised

/-- Names with commas between them, after a keyword. -/
def declarationStatement : Parser (List Tree) := do
  let _ ← next
  let _ ← separated (return true) word
  return []

/-- A `print` statement. -/
def printStatement : Parser (List Tree) := do
  expectWord "print"
  if ← acceptSymbol ">>" then
    return Operand.allParts (← separated seesOperand (self .expression))
  else return Operand.allParts (← separated seesOperand (self .expression))

/-- An `exec` statement. -/
def execStatement : Parser (List Tree) := do
  expectWord "exec"
  let code ← if ← seesString then string self else do
    let _ ← word
    pure []
  if ← acceptWord "in" then
    return code ++ Operand.allParts (← separated seesOperand (self .expression))
  else return code

/-- The type parameters of a definition, in brackets. -/
def typeParameters : Parser (List Tree) := do
  if ← acceptSymbol "[" then
    let items ← separatedUntil "]" do
      let _ ← seesSymbolOf ["*", "**"] >>= fun star ↦ if star then some <$> next else pure none
      let name ← self .expression
      if ← acceptSymbol ":" then return name.parts ++ (← self .expression).parts
      else return name.parts
    return items.flatten
  else return []

/-- A `type` statement. -/
def typeStatement : Parser (List Tree) := do
  expectWord "type"
  let _ ← word
  let parameters ← typeParameters self
  expectSymbol "="
  return parameters ++ (← self .expression).parts

/-- The line or the simple statement ends here. -/
def seesStatementEnd : Parser Bool := do
  return (← seesLineEnd) || (← seesSymbol ";")

/-- A statement that ends where it should. -/
def complete (statement : Parser (List Tree)) : Parser (List Tree) := do
  let parts ← statement
  if ← seesStatementEnd then return parts else failure

/-- A simple statement. The words `type`, `print` and `exec` begin a statement of their own only
where an identifier makes none. -/
def simpleStatement : Parser (List Tree) := do
  match ← peek? with
  | some (.name "import") | some (.name "from") => importStatement
  | some (.name "return") =>
    let _ ← next
    optionalList self []
  | some (.name "del") =>
    let _ ← next
    return (← expressionList self).parts
  | some (.name "assert") =>
    let _ ← next
    return Operand.allParts (← separated (return true) (self .expression))
  | some (.name "raise") => raiseStatement self
  | some (.name "pass") | some (.name "break") | some (.name "continue") =>
    let _ ← next
    return []
  | some (.name "global") | some (.name "nonlocal") => declarationStatement
  | some (.name "type") => complete (typeStatement self) <|> expressionStatement self
  | some (.name "print") => complete (expressionStatement self) <|> printStatement self
  | some (.name "exec") => complete (expressionStatement self) <|> execStatement self
  | _ => expressionStatement self

/-- Simple statements up to the end of the line. -/
def statementLine : Parser (List Tree) := do
  let first ← simpleStatement self
  let rest ← repeatWhile (seesSymbol ";") do
    expectSymbol ";"
    if ← seesLineEnd then return [] else simpleStatement self
  expectLineEnd
  return first ++ rest.flatten

/-! ### Blocks -/

/-- The next line of code belongs to a block of the given indentation. -/
def seesLineAt (level : Nat) : Parser Bool := do
  let remaining ← get
  return !remaining.tokens.isEmpty && level ≤ remaining.ahead.indent

/-- Takes the comments ahead that belong to a block of the given indentation. -/
def takeComments (level : Nat) : Parser Unit := do
  let remaining ← get
  let inside := remaining.ahead.comments.takeWhile fun comment ↦ level ≤ comment.indent
  match inside.getLast? with
  | none => return ()
  | some comment =>
    set { remaining with
      last := comment.stop
      ahead := { remaining.ahead with
        comments := remaining.ahead.comments.drop inside.length } }

/-- Lines of a block of the given indentation. -/
def block (level : Nat) (line : Parser (List Tree)) : Parser (List Tree) := do
  let lines ← repeatWhile (seesLineAt level) line
  takeComments level
  return lines.flatten

/-- An indented block after the end of a line, in a block of the given indentation. -/
def indented (level : Nat) (line : Nat → Parser (List Tree)) : Parser (List Tree) := do
  expectLineEnd
  let inner := (← get).ahead.indent
  if level < inner then block inner (line inner) else return []

/-- A statement in a block of the given indentation. -/
def statementAt (level : Nat) : Parser (List Tree) := do
  return (← self (.statement level)).parts

/-- The suite after a colon. -/
def suite (level : Nat) : Parser (List Tree) := do
  expectSymbol ":"
  if ← seesLineEnd then indented level (statementAt self) else statementLine self

/-- A clause of a compound statement is next. -/
def seesClauseOf (level : Nat) (words : List String) : Parser Bool := do
  return (← seesLineAt level) && (← seesWordOf words)

/-- The clause with one of the words and nothing before its suite, if it is next. -/
def optionalClause (level : Nat) (word : String) : Parser (List Tree) := do
  if ← seesClauseOf level [word] then
    expectWord word
    suite self level
  else return []

/-! ### Compound statements -/

/-- A condition and its suite, after a keyword. -/
def conditional (level : Nat) : Parser (List Tree) := do
  let _ ← next
  let condition ← self .expression
  return condition.parts ++ (← suite self level)

/-- An `if` statement. -/
def ifStatement (level : Nat) : Parser (List Tree) := do
  let first ← conditional self level
  let others ← repeatWhile (seesClauseOf level ["elif"]) (conditional self level)
  return first ++ others.flatten ++ (← optionalClause self level "else")

/-- A `while` statement. -/
def whileStatement (level : Nat) : Parser (List Tree) := do
  let first ← conditional self level
  return first ++ (← optionalClause self level "else")

/-- A `for` statement. -/
def forStatement (level : Nat) : Parser (List Tree) := do
  expectWord "for"
  let assigned ← targets self
  expectWord "in"
  let values ← expressionList self
  let body ← suite self level
  return assigned ++ values.parts ++ body ++ (← optionalClause self level "else")

/-- A `with` statement. -/
def withStatement (level : Nat) : Parser (List Tree) := do
  expectWord "with"
  let items ← separated seesOperand (self .expression)
  return Operand.allParts items ++ (← suite self level)

/-- An `except` clause. -/
def exceptClause (level : Nat) : Parser (List Tree) := do
  expectWord "except"
  let _ ← acceptSymbol "*"
  let caught ← if ← seesSymbol ":" then pure []
    else separated seesOperand (self .expression)
  return Operand.allParts caught ++ (← suite self level)

/-- A `try` statement, which has an `except` or a `finally`. -/
def tryStatement (level : Nat) : Parser (List Tree) := do
  expectWord "try"
  let body ← suite self level
  if ← seesClauseOf level ["except"] then
    let handlers ← repeatWhile (seesClauseOf level ["except"]) (exceptClause self level)
    let otherwise ← optionalClause self level "else"
    return body ++ handlers.flatten ++ otherwise ++ (← optionalClause self level "finally")
  else if ← seesClauseOf level ["finally"] then
    return body ++ (← optionalClause self level "finally")
  else failure

/-- A function that starts at `start`. Its signature is its parameters and its return annotation. -/
def functionStatement (level : Nat) (start : Place) : Parser (List Tree) := do
  expectWord "def"
  let name ← word
  let types ← typeParameters self
  let parametersStart ← here
  expectSymbol "("
  let parameters ← if ← acceptSymbol ")" then pure []
    else separatedUntil ")" (parameter self true)
  let written ← textSince parametersStart
  let (returns, written) ←
    if ← acceptSymbol "->" then do
      let returnStart ← here
      let type ← self .expression
      pure (type.parts, written ++ " -> " ++ (← textSince returnStart))
    else pure ([], written)
  let body ← suite self level
  return [.function name (signature written) ⟨start, ← last⟩ types parameters.flatten
    returns body]

/-- A class. -/
def classStatement (level : Nat) : Parser (List Tree) := do
  let start ← here
  expectWord "class"
  let name ← word
  let types ← typeParameters self
  let bases ← if ← seesSymbol "(" then arguments self else pure []
  let body ← suite self level
  return [.classDefinition name ⟨start, ← last⟩ types bases body]

/-- A statement after `async`, which is part of it. -/
def asyncStatement (level : Nat) : Parser (List Tree) := do
  let start ← here
  expectWord "async"
  match ← peek? with
  | some (.name "def") => functionStatement self level start
  | some (.name "for") => forStatement self level
  | some (.name "with") => withStatement self level
  | _ => failure

/-- A definition, without decorators. -/
def definition (level : Nat) : Parser (List Tree) := do
  match ← peek? with
  | some (.name "class") => classStatement self level
  | some (.name "def") => functionStatement self level (← here)
  | some (.name "async") =>
    if (← peekSecond?) = some (.name "def") then asyncStatement self level else failure
  | _ => failure

/-- A definition with decorators, which are no part of its span. -/
def decorated (level : Nat) : Parser (List Tree) := do
  let decorators ← repeatWhile (seesSymbol "@") do
    expectSymbol "@"
    let decorator ← self .expression
    expectLineEnd
    return decorator.parts
  return decorators.flatten ++ (← definition self level)

/-! ### Matching -/

/-- Patterns with commas between them up to a closing symbol. -/
def patternsUntil (close : String) : Parser (List Tree) := do
  if ← acceptSymbol close then return []
  else
    let items ← separatedUntil close do
      match ← peekSecond? with
      | some (.symbol "=") =>
        let _ ← word
        expectSymbol "="
        self .pattern
      | _ => self .pattern
    return Operand.allParts items

/-- An entry of a pattern in braces. -/
def patternEntry : Parser (List Tree) := do
  if ← acceptSymbol "**" then
    let _ ← word
    return []
  else
    let key ← self .pattern
    expectSymbol ":"
    return key.parts ++ (← self .pattern).parts

/-- A pattern without alternatives. -/
def simplePattern : Parser (List Tree) := do
  match ← peek? with
  | some (.symbol "*") =>
    expectSymbol "*"
    let _ ← word
    return []
  | some (.symbol "[") =>
    expectSymbol "["
    patternsUntil self "]"
  | some (.symbol "(") =>
    expectSymbol "("
    patternsUntil self ")"
  | some (.symbol "\x7b") =>
    expectSymbol "\x7b"
    if ← acceptSymbol "\x7d" then return []
    else return (← separatedUntil "\x7d" (patternEntry self)).flatten
  | some .string | some .formatStart => strings self
  | some .number | some (.symbol "-") =>
    let _ ← acceptSymbol "-"
    expect .number
    if ← seesSymbolOf ["+", "-"] then
      let _ ← next
      expect .number
    return []
  | _ =>
    let _ ← dottedName
    if ← acceptSymbol "(" then patternsUntil self ")" else return []

/-- A pattern: alternatives, and a name for what matches. -/
def pattern : Parser Operand := do
  let first ← simplePattern self
  let others ← repeatWhile (seesSymbol "|") do
    expectSymbol "|"
    simplePattern self
  let _ ← binding
  return .plain (first ++ others.flatten)

/-- A `case` of a `match` statement. -/
def caseClause (level : Nat) : Parser (List Tree) := do
  expectWord "case"
  let patterns ← separated (do return !(← seesSymbol ":") && !(← seesWord "if")) (self .pattern)
  let guarded ← if ← acceptWord "if" then do pure (← self .expression).parts else pure []
  return Operand.allParts patterns ++ guarded ++ (← suite self level)

/-- A `match` statement. -/
def matchStatement (level : Nat) : Parser (List Tree) := do
  expectWord "match"
  let subjects ← separated seesOperand (self .expression)
  expectSymbol ":"
  return Operand.allParts subjects ++ (← indented level (caseClause self))

/-! ### All statements -/

/-- A statement in a block of the given indentation. The words `match` and `async` begin a
statement of their own only where they can. -/
def statement (level : Nat) : Parser (List Tree) := do
  match ← peek? with
  | some (.name "if") => ifStatement self level
  | some (.name "while") => whileStatement self level
  | some (.name "for") => forStatement self level
  | some (.name "with") => withStatement self level
  | some (.name "try") => tryStatement self level
  | some (.name "def") => functionStatement self level (← here)
  | some (.name "class") => classStatement self level
  | some (.symbol "@") => decorated self level
  | some (.name "match") => matchStatement self level <|> statementLine self
  | some (.name "async") => asyncStatement self level <|> statementLine self
  | _ => statementLine self

end Grammar

end SymbolGraph.Python.Parser
