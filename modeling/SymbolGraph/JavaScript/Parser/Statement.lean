import SymbolGraph.JavaScript.Parser.Expression

/-!
# JavaScript statements

A statement declares something, brings names in from other modules or hands them out, directs the
course of the program, or is an expression.
-/

set_option autoImplicit false

namespace SymbolGraph.JavaScript.Parser

open Text (Place)

section Grammar

variable (self : Rule → Parser Operand)

/-- A statement nested in another one. -/
def nested : Parser (List Tree) := do
  return (← self .statement).parts

/-! ### Declarations -/

/-- The value of a declarator, which may be left out. -/
def initializer : Parser (Option Operand) := do
  if ← acceptSymbol "=" then some <$> self .expression else pure none

/-- A declarator that starts at `start` and stops with what was read last. -/
def declaratorOf (start : Place) (pattern : Operand) (value : Option Operand) : Parser Tree := do
  return .declarator pattern.form.target ⟨start, ← last⟩ pattern.parts (value.map (·.value))

/-- A declared name or pattern with its value. -/
def declarator : Parser Tree := do
  let start ← here
  let pattern ← self .pattern
  declaratorOf start pattern (← initializer self)

/-- The declared names after the first one. -/
def furtherDeclarators : Parser (List Tree) :=
  repeatWhile (seesSymbol ",") do
    expectSymbol ","
    declarator self

/-- A declaration of variables is next. A word of `operators` after `let` makes `let` a name. -/
def seesDeclaration (operators : List String) : Parser Bool := do
  if ← seesWordOf ["var", "const"] then return true
  else if ← seesWord "let" then
    match (← peekSecond).kind with
    | .word text => return !operators.contains text
    | .symbol text => return text = "[" || text = "\x7b"
    | _ => return false
  else return false

/-- A declaration of variables. -/
def declaration : Parser (List Tree) := do
  let _ ← next
  let first ← declarator self
  let others ← furtherDeclarators self
  semicolon
  return first :: others

/-- The declaration of a function with a name is next. -/
def seesFunction : Parser Bool := do
  if ← seesWordOf ["function", "async"] then
    return (← lookahead do
      let _ ← acceptWord "async"
      expectWord "function"
      let _ ← acceptSymbol "*"
      word).isSome
  else return false

/-- The declaration of a function. An operator could follow it when `closed` holds. -/
def functionDeclaration (closed : Bool) : Parser (List Tree) := do
  let start ← here
  let _ ← acceptWord "async"
  expectWord "function"
  let _ ← acceptSymbol "*"
  let name ← word
  let (written, parameters) ← parameters self
  let body ← if closed then closedBody self else block self
  return [.functionDeclaration name ⟨start, ← last⟩ ⟨.enclosed written, parameters, body⟩]

/-- The declaration of a class with a name is next. -/
def seesClass : Parser Bool := do
  if ← seesWord "class" then
    match (← peekSecond).kind with
    | .word text => return text ≠ "extends"
    | _ => return false
  else return false

/-! ### Modules -/

/-- The name that a module as a whole is bound to, after the star. A comment on the way to the name
is taken for it. -/
def moduleBinding : Parser String := do
  let early := (← peek).gap.comment
  expectWord "as"
  let late := (← peek).gap.comment
  let name ← word
  match early <|> late with
  | some (start, stop) => return Text.slice (← get).source start stop
  | none => return name.text

/-- The items of an `import` statement before the word `from`. -/
def importItems : Parser (List ImportItem) := do
  let whole : Parser (List ImportItem) := do
    expectSymbol "*"
    return [.whole (← moduleBinding)]
  let listed : Parser (List ImportItem) := do
    expectSymbol "\x7b"
    separatedUntil "\x7d" do
      let start ← here
      if !(← accept .string) then let _ ← word
      let name ← textSince start
      let localName ← if ← acceptWord "as" then some <$> word else pure none
      return .named name (localName.map (·.text))
  if ← seesSymbol "*" then whole
  else if ← seesSymbol "\x7b" then listed
  else
    let name ← word
    let others ←
      if ← acceptSymbol "," then
        if ← seesSymbol "*" then whole else listed
      else pure []
    return .named name.text none :: others

/-- The attributes of an imported module, which may be left out. -/
def importAttributes : Parser (List Tree) := do
  if ← acceptWord "with" then return (← object self).parts else return []

/-- An `import` statement. Without items the module is only run. -/
def importStatement : Parser (List Tree) := do
  let line := (← here).row + 1
  expectWord "import"
  let items ← if ← sees .string then pure none
    else do
      let items ← importItems
      expectWord "from"
      pure (some items)
  let source ← stringText
  let attributes ← importAttributes self
  semicolon
  return [.imports source items line attributes]

/-- The module that names are handed on from. -/
def fromClause : Parser Unit := do
  expectWord "from"
  expect .string

/-- The name of something that is handed out. -/
def exportedName : Parser Unit := do
  if !(← accept .string) then let _ ← word

/-- An `export` statement. -/
def exportStatement : Parser (List Tree) := do
  expectWord "export"
  if ← acceptSymbol "*" then
    if ← acceptWord "as" then exportedName
    fromClause
    let attributes ← importAttributes self
    semicolon
    return attributes
  else if ← acceptSymbol "\x7b" then
    let _ ← separatedUntil "\x7d" do
      exportedName
      if ← acceptWord "as" then exportedName
    let attributes ← if ← seesWord "from" then do
        fromClause
        importAttributes self
      else pure []
    semicolon
    return attributes
  else if ← acceptWord "default" then
    let start ← here
    let decorators ← decorators self
    if ← seesFunction then functionDeclaration self true
    else if ← seesClass then return [← classFrom self start decorators true]
    else
      let value ← if ← seesWord "class" then
          do pure [← classFrom self start decorators false]
        else do pure (← self .expression).parts
      semicolon
      return value
  else
    let start ← here
    let decorators ← decorators self
    if ← seesFunction then functionDeclaration self false
    else if ← seesWord "class" then return [← classFrom self start decorators false]
    else if ← seesDeclaration ["in", "instanceof"] then declaration self
    else failure

/-- A statement that begins with decorators. Before `export` they stand outside of the class. -/
def decoratedStatement : Parser (List Tree) := do
  let start ← here
  let decorators ← decorators self
  if ← seesWord "export" then return decorators ++ (← exportStatement self)
  else return [← classFrom self start decorators true]

/-! ### Control -/

/-- An `if` statement. -/
def ifStatement : Parser (List Tree) := do
  expectWord "if"
  let condition ← condition self
  let consequence ← nested self
  let otherwise ← if ← acceptWord "else" then nested self else pure []
  return condition ++ consequence ++ otherwise

/-- The head of a `for` statement that runs over values, after what it assigns to. -/
def valuesOf : Parser (List Tree) := do
  if ← seesWordOf ["of", "in"] then
    let _ ← next
    let values ← expressions self
    expectSymbol ")"
    return values
  else failure

/-- The rest of the head of a `for` statement with a condition, after its first part. -/
def loopRest : Parser (List Tree) := do
  let condition ← if ← seesSymbol ";" then pure [] else expressions self
  expectSymbol ";"
  let step ← if ← seesSymbol ")" then pure [] else expressions self
  expectSymbol ")"
  return condition ++ step

/-- The head of a `for` statement that declares variables. Running over values it declares none. -/
def declaringHead : Parser (List Tree) := do
  let _ ← next
  let start ← here
  let pattern ← self .pattern
  let value ← initializer self
  if ← seesWordOf ["of", "in"] then
    return pattern.parts ++ Operand.allParts value.toList ++ (← valuesOf self)
  else
    let first ← declaratorOf start pattern value
    let others ← furtherDeclarators self
    semicolon
    return first :: others ++ (← loopRest self)

/-- The head of a `for` statement without a declaration. -/
def plainHead : Parser (List Tree) :=
  (do
    let target ← self .operand
    if target.form.isTarget then return target.parts ++ (← valuesOf self) else failure) <|>
  (do
    let first ← if ← seesSymbol ";" then pure [] else expressions self
    expectSymbol ";"
    return first ++ (← loopRest self))

/-- A `for` statement. -/
def forStatement : Parser (List Tree) := do
  expectWord "for"
  let _ ← acceptWord "await"
  expectSymbol "("
  let declares ← seesDeclaration ["in", "instanceof", "of"]
  let head ← if declares then declaringHead self else plainHead self
  return head ++ (← nested self)

/-- A `while` or `with` statement. -/
def whileStatement : Parser (List Tree) := do
  let _ ← next
  let condition ← condition self
  return condition ++ (← nested self)

/-- A `do` statement. -/
def doStatement : Parser (List Tree) := do
  expectWord "do"
  let body ← nested self
  expectWord "while"
  let condition ← condition self
  let _ ← acceptSymbol ";"
  return body ++ condition

/-- A case of a `switch` statement. -/
def switchCase : Parser (List Tree) := do
  let values ← if ← acceptWord "default" then pure [] else do
    expectWord "case"
    expressions self
  expectSymbol ":"
  let inside := do return !(← seesSymbol "\x7d") && !(← seesWordOf ["case", "default"])
  return values ++ Operand.allParts (← repeatWhile inside (self .statement))

/-- A `switch` statement. -/
def switchStatement : Parser (List Tree) := do
  expectWord "switch"
  let value ← condition self
  expectSymbol "\x7b"
  let cases ← repeatWhile (return !(← seesSymbol "\x7d")) (switchCase self)
  expectSymbol "\x7d"
  return value ++ cases.flatten

/-- A `try` statement. -/
def tryStatement : Parser (List Tree) := do
  expectWord "try"
  let body ← block self
  let handler ← if ← acceptWord "catch" then do
      let target ← if ← acceptSymbol "(" then do
          let target ← self .pattern
          expectSymbol ")"
          pure target.parts
        else pure []
      pure (target ++ (← block self))
    else pure []
  let final ← if ← acceptWord "finally" then block self else pure []
  return body ++ handler ++ final

/-- A statement that leaves something, with expressions where `valued` allows them. -/
def leavingStatement (valued : Bool) : Parser (List Tree) := do
  let _ ← next
  if ← seesEnd then
    semicolon
    return []
  else
    let value ← if valued then expressions self else do
      let _ ← word
      pure []
    semicolon
    return value

/-- Expressions as a statement. -/
def expressionStatement : Parser (List Tree) := do
  let parts ← expressions self
  semicolon
  return parts

/-- A statement that begins with a word. -/
def wordStatement (text : String) : Parser (List Tree) := do
  match text with
  | "if" => ifStatement self
  | "for" => forStatement self
  | "while" | "with" => whileStatement self
  | "do" => doStatement self
  | "switch" => switchStatement self
  | "try" => tryStatement self
  | "return" => leavingStatement self true
  | "break" | "continue" | "debugger" => leavingStatement self false
  | "throw" =>
    let _ ← next
    expressionStatement self
  | "export" => exportStatement self
  | "import" =>
    match (← peekSecond).kind with
    | .symbol "(" | .symbol "." => expressionStatement self
    | _ => importStatement self
  | _ =>
    if ← seesFunction then functionDeclaration self true
    else if ← seesClass then return [← classFrom self (← here) [] true]
    else if ← seesDeclaration ["in", "instanceof"] then declaration self
    else if (← peekSecond).kind = .symbol ":" then
      let _ ← word
      expectSymbol ":"
      nested self
    else expressionStatement self

/-- Takes a comment that begins like one of markup, up to the end of its line. -/
def acceptMarkupRemark : Parser Bool := do
  let start := (← peek).start
  if start.startsWith "<!--" || start.startsWith "-->" then
    resume (start.dropWhile fun character ↦ !Gap.isLineEnd character)
    return true
  else return false

/-- A statement. -/
def statement : Parser (List Tree) := do
  if ← acceptMarkupRemark then return []
  match (← peek).kind with
  | .symbol ";" =>
    let _ ← next
    return []
  | .symbol "\x7b" => block self
  | .symbol "@" => decoratedStatement self
  | .word text => wordStatement self text
  | _ => expressionStatement self

end Grammar

end SymbolGraph.JavaScript.Parser
