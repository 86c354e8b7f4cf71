import SymbolGraph.JavaScript.Parser.Basic
import SymbolGraph.Text.Split

/-!
# JavaScript expressions

An expression is a chain of operands joined by infix operators, which may be assigned to or decide
between two others (`expression`). An operand is an atom with prefixes, and with members,
subscripts, calls and templates after it (`operand`). How operators bind does not matter for the
parts that are kept, so chains stay flat. Parentheses, lists and braces are read as expressions
even where they turn out to be parameters or patterns. A word that is no keyword at its place is an
identifier there.
-/

set_option autoImplicit false

namespace SymbolGraph.JavaScript.Parser

open Text (Place Cursor)

/-- Runs a parser and goes back to where it began. -/
def lookahead {α : Type} (parser : Parser α) : Parser (Option α) := do
  let remaining ← get
  return (parser.run remaining).map (·.1)

/-- The text of a string without its marks. -/
def unquoted (text : String) : String :=
  String.ofList (text.toList.drop 1).dropLast

/-- A string, and its text without the marks. -/
def stringText : Parser String := do
  let start ← here
  expect .string
  return unquoted (← textSince start)

section Grammar

variable (self : Rule → Parser Operand)

/-! ### Lists and blocks -/

/-- Expressions with commas between them. -/
def expressions : Parser (List Tree) := do
  let first ← self .expression
  let rest ← repeatWhile (seesSymbol ",") do
    expectSymbol ","
    self .expression
  return first.parts ++ Operand.allParts rest

/-- Expressions in parentheses. -/
def condition : Parser (List Tree) := do
  expectSymbol "("
  let parts ← expressions self
  expectSymbol ")"
  return parts

/-- Statements in braces. -/
def block : Parser (List Tree) := do
  expectSymbol "\x7b"
  let statements ← repeatWhile (return !(← seesSymbol "\x7d")) (self .statement)
  expectSymbol "\x7d"
  return Operand.allParts statements

/-! ### Patterns -/

/-- The name of a property: its text and the parts in it, which only a computed name has. -/
def propertyName : Parser (String × List Tree) := do
  let start ← here
  if ← acceptSymbol "[" then
    let name ← self .expression
    expectSymbol "]"
    return (← textSince start, name.parts)
  else
    match (← next).kind with
    | .word _ | .privateName | .number | .string => return (← textSince start, [])
    | _ => failure

/-- A pattern that may have a default value. -/
def bound : Parser Operand := do
  let target ← self .pattern
  if ← acceptSymbol "=" then
    return .plain (target.parts ++ (← self .expression).parts)
  else return target

/-- An entry of a pattern in braces. One with a default, or for all that is left, takes no member
under its own name. -/
def patternEntry : Parser (Option PatternEntry × List Tree) := do
  if ← acceptSymbol "..." then return (none, (← self .pattern).parts)
  else
    let (key, keyParts) ← propertyName self
    if ← acceptSymbol ":" then
      let start ← here
      let value ← bound self
      return (some ⟨key, ← textSince start⟩, keyParts ++ value.parts)
    else if ← acceptSymbol "=" then return (none, (← self .expression).parts)
    else return (some ⟨key, none⟩, keyParts)

/-- Something that a declaration binds. -/
def pattern : Parser Operand := do
  if ← acceptSymbol "..." then return .plain (← self .pattern).parts
  else if ← acceptSymbol "\x7b" then
    let entries ← sparseUntil "\x7d" (patternEntry self)
    return ⟨.braces (entries.filterMap (·.1)), entries.flatMap (·.2)⟩
  else if ← acceptSymbol "[" then
    return ⟨.pattern, Operand.allParts (← sparseUntil "]" (bound self))⟩
  else return ⟨.identifier (← word), []⟩

/-- The parameters of a function: their text and the parts in them. -/
def parameters : Parser (String × List Tree) := do
  let start ← here
  expectSymbol "("
  let items ← separatedUntil ")" (bound self)
  return (← textSince start, Operand.allParts items)

/-! ### Functions and classes -/

/-- The body of a function that an operator could follow. -/
def closedBody : Parser (List Tree) := do
  let body ← block self
  takeRemark
  return body

/-- The arrow and the body of a function with the given parameters. -/
def arrow (written : WrittenParameters) (parameters : List Tree) : Parser Operand := do
  expectSymbol "=>"
  let body ← if ← seesSymbol "\x7b" then closedBody self else do pure (← self .expression).parts
  return .whole (.functionValue ⟨written, parameters, body⟩)

/-- A function whose only parameter is a word without parentheses. -/
def arrowOfWord : Parser Operand := do
  let name ← word
  arrow self (.bare name) []

/-- A function that begins with the word `function`. -/
def functionExpression : Parser Operand := do
  expectWord "function"
  let _ ← acceptSymbol "*"
  unless ← seesSymbol "(" do let _ ← word
  let (written, parameters) ← parameters self
  return .whole (.functionValue ⟨.enclosed written, parameters, ← closedBody self⟩)

/-- The arguments of a call; the text of the first one if it is a string alone and no comment
precedes it. -/
def arguments : Parser (Option String × List Tree) := do
  expectSymbol "("
  let items ← sparseUntil ")" do
    let first ← peek
    let _ ← acceptSymbol "..."
    let value ← self .expression
    let text ← textSince first.start.place
    let alone := first.kind = .string && (← last) = first.stop.place && first.gap.comment.isNone
    return (if alone then some (unquoted text) else none, value.parts)
  return (items.head?.bind (·.1), items.flatMap (·.2))

/-- A decorator. -/
def decorator : Parser (List Tree) := do
  expectSymbol "@"
  let start ← here
  if ← seesSymbol "(" then condition self
  else
    let _ ← word
    let _ ← repeatWhile (seesSymbol ".") do
      expectSymbol "."
      let _ ← next
    if ← seesSymbol "(" then
      let callee ← textSince start
      let (text, arguments) ← arguments self
      return [.call callee text (start.row + 1) arguments]
    else return []

/-- The decorators ahead. -/
def decorators : Parser (List Tree) := do
  return (← repeatWhile (seesSymbol "@") (decorator self)).flatten

/-- A lexeme with which the name of a property may begin. -/
def beginsName (lexeme : Lexeme) : Bool :=
  match lexeme.kind with
  | .word _ | .privateName | .number | .string => true
  | .symbol text => text = "[" || text = "*"
  | _ => false

/-- A word that modifies the member after it is next. -/
def seesModifier : Parser Bool := do
  if ← seesWordOf ["static", "async", "get", "set"] then
    let second ← peekSecond
    return !second.gap.newline && beginsName second
  else return false

/-- Takes the words and the star before the name of a member; `true` when only a method can have
them. -/
def modifiers : Parser Bool := do
  let words ← repeatWhile seesModifier next
  let starred ← acceptSymbol "*"
  return starred || words.any (·.kind ≠ .word "static")

/-- A member of a class, without the semicolon after a field. -/
def member : Parser ClassElement := do
  let start ← here
  let decorators ← decorators self
  let callable ← modifiers
  let (name, nameParts) ← propertyName self
  let aside := decorators ++ nameParts
  if callable || (← seesSymbol "(") then
    let (written, parameters) ← parameters self
    let body ← block self
    return .method name ⟨start, ← last⟩ aside ⟨.enclosed written, parameters, body⟩
  else if ← acceptSymbol "=" then
    let value := (← self .expression).value
    return .field name ⟨start, ← last⟩ aside value
  else return .field name ⟨start, ← last⟩ aside none

/-- An element of a class: a member, a block that runs once, or a semicolon alone. -/
def classElement : Parser (Option ClassElement) := do
  if ← acceptSymbol ";" then return none
  else if (← seesWord "static") && (← peekSecond).kind = .symbol "\x7b" then
    expectWord "static"
    return some (.block (← block self))
  else
    let member ← member self
    if member matches .field .. then semicolon
    return member

/-- The elements of a class in braces. -/
def classBody : Parser (List ClassElement) := do
  expectSymbol "\x7b"
  let elements ← repeatWhile (return !(← seesSymbol "\x7d")) (classElement self)
  expectSymbol "\x7d"
  return elements.filterMap id

/-- A class that starts at `start`, after its decorators. -/
def classFrom (start : Place) (decorators : List Tree) (closed : Bool) : Parser Tree := do
  expectWord "class"
  let name ← if (← seesSymbol "\x7b") || (← seesWord "extends") then pure none else some <$> word
  let heritage ← if ← acceptWord "extends" then do pure (← self .operand).parts else pure []
  let elements ← classBody self
  if closed then takeRemark
  return .classDefinition name ⟨start, ← last⟩ decorators heritage elements

/-- A class that is a value. -/
def classExpression : Parser Operand := do
  let start ← here
  let decorators ← decorators self
  return .plain [← classFrom self start decorators false]

/-! ### Literals -/

/-- The rest of a template from a position, with at most the given number of substitutions. -/
def templateFrom : Nat → Cursor → Parser (List Tree)
  | 0, _ => failure
  | count + 1, position => do
    let (size, closed) ← (templateStop 0 position.rest : Option (Nat × Bool))
    resume (position.drop size)
    if closed then return []
    else
      let parts ← expressions self
      expectSymbol "\x7d"
      return parts ++ (← templateFrom count (← get).behind)

/-- A template. -/
def template : Parser (List Tree) := do
  expectSymbol "`"
  let remaining ← get
  templateFrom self remaining.budget remaining.behind

/-- A regular expression. -/
def regex : Parser Operand := do
  let start := (← peek).start.next
  let size ← (regexSize? false 0 start.rest : Option Nat)
  let stop := start.drop size
  resume (stop.dropWhile fun flag ↦ 'a' ≤ flag && flag ≤ 'z')
  return .plain []

/-- An element of a list. -/
def element : Parser Operand := do
  let _ ← acceptSymbol "..."
  self .expression

/-- A word that modifies the property after it is next. -/
def seesPropertyModifier : Parser Bool := do
  if ← seesWordOf ["async", "get", "set"] then return beginsName (← peekSecond) else return false

/-- A property between braces. -/
def property : Parser Operand := do
  if ← acceptSymbol "..." then self .expression
  else
    let _ ← repeatWhile seesPropertyModifier next
    let _ ← acceptSymbol "*"
    let isWord := (← peek).kind matches .word _
    let (_, nameParts) ← propertyName self
    if ← acceptSymbol ":" then
      let value ← self .expression
      return ⟨value.form, nameParts ++ value.parts⟩
    else if ← seesSymbol "(" then
      let (_, parameters) ← parameters self
      return .plain (nameParts ++ parameters ++ (← block self))
    else if !isWord then failure
    else if ← acceptSymbol "=" then return ⟨.assignment, (← self .expression).parts⟩
    else return ⟨.pattern, []⟩

/-! ### Markup -/

/-- A character in the name of an element or attribute. -/
def isMarkupName (character : Char) : Bool :=
  continuesWord character || character = '-' || character = '.' || character = ':'

/-- Takes the name of an element or attribute. -/
def markupName : Parser Unit := do
  let start := (← peek).start
  let stop := start.dropWhile isMarkupName
  if start.size = stop.size then failure else resume stop

/-- An expression in braces, which may be left out. -/
def container : Parser (List Tree) := do
  expectSymbol "\x7b"
  let _ ← acceptSymbol "..."
  let parts ← if ← seesSymbol "\x7d" then pure [] else expressions self
  expectSymbol "\x7d"
  return parts

/-- A string in markup, which has no escapes. -/
def markupString (mark : Char) : Parser Unit := do
  let stop := (← peek).start.next.dropWhile (· ≠ mark)
  if stop.rest.isEmpty then failure else resume stop.next

/-- An attribute of an element. -/
def markupAttribute : Parser (List Tree) := do
  if ← seesSymbol "\x7b" then container self
  else
    markupName
    if ← acceptSymbol "=" then
      match (← peek).start.rest with
      | '{' :: _ => container self
      | '<' :: _ => return (← self .markup).parts
      | '"' :: _ =>
        markupString '"'
        return []
      | '\'' :: _ =>
        markupString '\''
        return []
      | _ => failure
    else return []

/-- The length of the character reference at the front, zero if there is none. -/
def referenceSize (text : List Char) : Nat :=
  let closed (size : Nat) (limit : Nat) (before : Nat) : Nat :=
    if 0 < size ∧ size ≤ limit ∧ (text.drop (before + size)).head? = some ';' then
      before + size + 1
    else 0
  match text with
  | '&' :: '#' :: 'x' :: rest | '&' :: '#' :: 'X' :: rest =>
    closed (rest.takeWhile isHexDigit).length 6 3
  | '&' :: '#' :: rest => closed (rest.takeWhile Char.isDigit).length 5 2
  | '&' :: rest => closed (rest.takeWhile Char.isAlpha).length 30 1
  | _ => 0

/-- Takes one character. -/
def expectCharacter (character : Char) : Parser Unit := do
  let start := (← peek).start
  if start.rest.head? = some character then resume start.next else failure

/-- The content of an element from a position through its closing tag, with at most the given
number of pieces. -/
def contentFrom : Nat → Cursor → Parser (List Tree)
  | 0, _ => failure
  | count + 1, position => do
    let found := position.dropWhile fun character ↦ !(['<', '>', '{', '}', '&'].contains character)
    match found.rest with
    | '<' :: _ =>
      resume found
      if (← lookahead (do expectCharacter '<'; expectCharacter '/')).isSome then
        expectCharacter '<'
        expectCharacter '/'
        if (← peek).start.rest.head? ≠ some '>' then markupName
        expectCharacter '>'
        return []
      else
        let inner ← self .markup
        return inner.parts ++ (← contentFrom count (← get).behind)
    | '{' :: _ =>
      resume found
      let parts ← container self
      return parts ++ (← contentFrom count (← get).behind)
    | '&' :: _ =>
      match referenceSize found.rest with
      | 0 => failure
      | size => contentFrom count (found.drop size)
    | _ => failure

/-- An element, with its attributes and its content. The name in its closing tag may differ. -/
def markup : Parser Operand := do
  expectCharacter '<'
  let attributes ←
    if (← peek).start.rest.head? = some '>' then pure []
    else
      markupName
      repeatWhile (do return !(['>', '/'].contains ((← peek).start.rest.headD '>')))
        (markupAttribute self)
  if (← peek).start.rest.head? = some '/' then
    expectCharacter '/'
    expectCharacter '>'
    return .plain attributes.flatten
  else
    expectCharacter '>'
    let remaining ← get
    return .plain (attributes.flatten ++ (← contentFrom self remaining.budget remaining.behind))

/-! ### Operands -/

/-- A list. -/
def list : Parser Operand := do
  expectSymbol "["
  return .collect (← sparseUntil "]" (element self))

/-- An object. -/
def object : Parser Operand := do
  expectSymbol "\x7b"
  return .collect (← sparseUntil "\x7d" (property self))

/-- An item in parentheses that may turn out to be a parameter, and the comma after it. Only a
parameter may follow dots or stand before a last comma. -/
def item : Parser (Operand × Bool) := do
  let operand ←
    if ← acceptSymbol "..." then do pure ⟨.pattern, (← self .expression).parts⟩
    else self .expression
  if ← seesSymbol ")" then return (operand, false)
  else
    expectSymbol ","
    return (operand, ← seesSymbol ")")

/-- Items in parentheses that may turn out to be parameters; `true` when a comma follows the last
one. -/
def items : Parser (List Operand × Bool) := do
  expectSymbol "("
  let items ← repeatWhile (return !(← seesSymbol ")")) (item self)
  expectSymbol ")"
  return (items.map (·.1), items.any (·.2))

/-- A function whose parameters are read already, from a position. -/
def arrowAfter (start : Place) (parameters : List Operand) : Parser Operand := do
  if parameters.all (·.form.isParameter) then
    arrow self (.enclosed (← textSince start)) (Operand.allParts parameters)
  else failure

/-- Expressions in parentheses, or a function that begins with its parameters. -/
def enclosed : Parser Operand := do
  let start ← here
  let (items, trailing) ← items self
  if ← seesSymbol "=>" then arrowAfter self start items
  else if trailing then failure
  else
    match items with
    | [] => failure
    | [item] => return ⟨if item.form.isTarget then .place else .other, item.parts⟩
    | _ => return .plain (Operand.allParts items)

/-- The call of something that starts at `start` and is written as `callee`, with the parts `before`
the arguments. -/
def call (start : Place) (callee : String) (before : List Tree) : Parser Operand := do
  if ← seesSymbol "`" then
    return .whole (.call callee none (start.row + 1) (before ++ (← template self)))
  else
    let (text, arguments) ← arguments self
    return .whole (.call callee text (start.row + 1) (before ++ arguments))

/-- What begins with the word `async`: a function, or an identifier of that name. -/
def asyncOperand : Parser Operand := do
  let start ← here
  let name ← word
  let lexeme ← peek
  match lexeme.kind, lexeme.gap.newline with
  | .word "function", false => functionExpression self
  | .word _, false =>
    if (← peekSecond).kind = .symbol "=>" then arrowOfWord self else return ⟨.identifier name, []⟩
  | .symbol "(", false =>
    let parametersStart ← here
    let (items, _) ← items self
    if ← seesSymbol "=>" then arrowAfter self parametersStart items
    else return .whole (.call name.text none (start.row + 1) (Operand.allParts items))
  | .symbol "=>", _ => arrow self (.bare name) []
  | _, _ => return ⟨.identifier name, []⟩

/-- The words that stand for a value. -/
def valueWords : List String :=
  ["this", "super", "true", "false", "null", "import"]

/-- Members and subscripts after an operand, at most the given number; then the operand is
something to instantiate. -/
def instantiable : Nat → List Tree → Parser (List Tree)
  | 0, parts => return parts
  | count + 1, parts => do
    if ← acceptSymbol "." then
      let _ ← next
      instantiable count parts
    else if ← acceptSymbol "[" then
      let index ← expressions self
      expectSymbol "]"
      instantiable count (parts ++ index)
    else return parts

/-- An operand without anything before or after it. -/
def atom (instantiation : Parser Operand) : Parser Operand := do
  match (← peek).kind with
  | .word "function" => functionExpression self
  | .word "class" | .symbol "@" => classExpression self
  | .word "async" => asyncOperand self
  | .word "new" => instantiation
  | .word text =>
    if (← peekSecond).kind = .symbol "=>" then arrowOfWord self
    else
      let name ← word
      return if valueWords.contains text then .plain [] else ⟨.identifier name, []⟩
  | .number | .string | .privateName =>
    let _ ← next
    return .plain []
  | .symbol "(" => enclosed self
  | .symbol "[" => list self
  | .symbol "\x7b" => object self
  | .symbol "`" => return .plain (← template self)
  | .symbol "/" | .symbol "/=" => regex
  | .symbol "<" => self .markup
  | _ => failure

/-- An instantiation, or the word that tells whether a function is instantiated. -/
def instantiation : Nat → Parser Operand
  | 0 => failure
  | count + 1 => do
    let start ← here
    expectWord "new"
    if ← acceptSymbol "." then
      let _ ← word
      return .plain []
    else
      let calleeStart ← here
      let base ← atom self (instantiation count)
      let parts ← instantiable self (← get).budget base.parts
      let callee ← textSince calleeStart
      let arguments ← if ← seesSymbol "(" then do pure (← arguments self).2 else pure []
      return .whole (.call callee none (start.row + 1) (parts ++ arguments))

/-- The members, subscripts, calls and templates after an operand that starts at `start`, at most
the given number. -/
def suffixes (start : Place) : Nat → Operand → Parser Operand
  | 0, operand => return operand
  | count + 1, operand => do
    if ← seesSymbolOf ["(", "`"] then
      suffixes start count (← call self start (← textSince start) operand.parts)
    else if ← acceptSymbol "[" then
      let index ← expressions self
      expectSymbol "]"
      suffixes start count ⟨.place, operand.parts ++ index⟩
    else if ← acceptSymbol "." then
      match (← next).kind with
      | .word _ | .privateName => suffixes start count ⟨.place, operand.parts⟩
      | _ => failure
    else if ← seesSymbol "?." then
      let callee ← textSince start
      expectSymbol "?."
      if ← seesSymbolOf ["(", "`"] then
        suffixes start count (← call self start callee operand.parts)
      else if ← acceptSymbol "[" then
        let index ← expressions self
        expectSymbol "]"
        suffixes start count ⟨.place, operand.parts ++ index⟩
      else
        match (← next).kind with
        | .word _ | .privateName => suffixes start count ⟨.place, operand.parts⟩
        | _ => failure
    else return operand

/-- An operand without prefixes. -/
def operand : Parser Operand := do
  let start ← here
  let budget := (← get).budget
  suffixes self start budget (← atom self (instantiation self budget))

/-! ### Chains -/

/-- The words before an operand. -/
def prefixWords : List String :=
  ["typeof", "void", "delete"]

/-- The symbols before an operand. -/
def prefixSymbols : List String :=
  ["!", "~", "-", "+", "++", "--"]

/-- A lexeme with which an operand may begin. -/
def beginsOperand (lexeme : Lexeme) : Bool :=
  match lexeme.kind with
  | .word text => !(["in", "instanceof", "of"].contains text)
  | .number | .string | .privateName => true
  | .symbol text =>
    (prefixSymbols ++ ["(", "[", "\x7b", "`", "/", "/=", "<", "@"]).contains text
  | _ => false

/-- A prefix of an operand is next. -/
def seesPrefix : Parser Bool := do
  if ← seesWord "await" then return beginsOperand (← peekSecond)
  else if ← seesWordOf prefixWords then return true
  else seesSymbolOf prefixSymbols

/-- An operand with its prefixes, and the symbols that count it up or down. -/
def prefixed : Parser Operand := do
  let prefixes ← repeatWhile seesPrefix next
  let operand ← operand self
  let counted ← if (← seesSymbolOf ["++", "--"]) && !(← peek).gap.newline then
      let _ ← next
      pure true
    else pure false
  return if prefixes.isEmpty && !counted then operand else .plain operand.parts

/-- The symbols between the operands of a chain. -/
def infixSymbols : List String :=
  ["&&", "||", "??", ">>", ">>>", "<<", "&", "^", "|", "+", "-", "*", "/", "%", "**", "<", "<=",
   "==", "===", "!=", "!==", ">=", ">"]

/-- The symbols that assign. -/
def assignmentSymbols : List String :=
  ["=", "+=", "-=", "*=", "/=", "%=", "**=", "<<=", ">>=", ">>>=", "&=", "^=", "|=", "&&=", "||=",
   "??="]

/-- An infix operator is next. -/
def seesInfix : Parser Bool := do
  return (← seesSymbolOf infixSymbols) || (← seesWordOf ["in", "instanceof"])

/-- Operands joined by infix operators. -/
def chain : Parser Operand := do
  let first ← prefixed self
  let others ← repeatWhile seesInfix do
    let _ ← next
    prefixed self
  return if others.isEmpty then first else .plain (first.parts ++ Operand.allParts others)

/-- A `yield` with what it yields. -/
def yielding : Parser Operand := do
  expectWord "yield"
  if ← acceptSymbol "*" then return .plain (← self .expression).parts
  else if beginsOperand (← peek) && !(← seesImpliedEnd) then
    return .plain (← self .expression).parts
  else return .plain []

/-- An expression. -/
def expression : Parser Operand := do
  if ← seesWord "yield" then yielding self
  else
    let operand ← chain self
    if ← acceptSymbol "?" then
      let consequence ← self .expression
      expectSymbol ":"
      let alternative ← self .expression
      return .plain (operand.parts ++ consequence.parts ++ alternative.parts)
    else if operand.form.isTarget && (← seesSymbolOf assignmentSymbols) then
      let _ ← next
      return ⟨.assignment, operand.parts ++ (← self .expression).parts⟩
    else return operand

end Grammar

end SymbolGraph.JavaScript.Parser
