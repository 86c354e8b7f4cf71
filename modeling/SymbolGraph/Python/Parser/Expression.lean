import SymbolGraph.Python.Parser.Basic

/-!
# Python expressions

An expression is a chain of operands joined by infix operators, followed by `if … else …` and `as …`
parts (`expression`). An operand is an atom with prefixes and with attributes, subscripts and calls
after it (`operand`). How operators bind does not matter for the parts that are kept, so chains stay
flat. A word that is no keyword at its place is an identifier there.
-/

set_option autoImplicit false

namespace SymbolGraph.Python.Parser

open Text (Place)

/-! ### Which tokens begin and join operands -/

/-- The symbols an operand may begin with. -/
def operandSymbols : List String :=
  ["(", "[", "\x7b", "-", "+", "~", "*", "..."]

/-- A token with which an operand may begin. -/
def beginsOperand : TokenKind → Bool
  | .name _ | .number | .string | .formatStart => true
  | .symbol text => operandSymbols.contains text
  | _ => false

/-- An operand is next. -/
def seesOperand : Parser Bool := do
  return (← peek?).any beginsOperand

/-- The symbols between the operands of a chain. -/
def infixSymbols : List String :=
  ["+", "-", "*", "/", "//", "%", "@", "**", "&", "|", "^", "<<", ">>", "<", ">", "<=", ">=", "==",
   "!=", "<>"]

/-- The words that cannot begin the operand of `await`, because they join it to what follows. -/
def infixWords : List String :=
  ["and", "or", "in", "is", "not", "if", "else", "for", "async", "as", "from"]

/-- `await` is a prefix here and not an identifier. -/
def awaits : TokenKind → Bool
  | .name text => !infixWords.contains text
  | .symbol text => ["(", "[", "\x7b", "-", "+", "~", "..."].contains text
  | kind => beginsOperand kind

/-- A comprehension's first clause is next. -/
def seesClause : Parser Bool :=
  seesWordOf ["for", "async"]

section Grammar

variable (self : Rule → Parser Operand)

/-! ### Lists of expressions -/

/-- Expressions with commas between them, as one operand. -/
def expressionList : Parser Operand := do
  let first ← self .expression
  if ← seesSymbol "," then
    expectSymbol ","
    if ← seesOperand then
      let rest ← separated seesOperand (self .expression)
      return .collect (first :: rest)
    else return .collect [first]
  else return first

/-- A `yield` with what it yields. -/
def yielding : Parser Operand := do
  expectWord "yield"
  if ← acceptWord "from" then
    return .plain (← self .expression).parts
  else if ← seesOperand then
    return .plain (← expressionList self).parts
  else return .plain []

/-- A `yield`, or expressions with commas between them. -/
def yieldOrList : Parser Operand := do
  if ← seesWord "yield" then yielding self else expressionList self

/-- An element of a list, tuple or set. -/
def element : Parser Operand := do
  if ← acceptSymbol "*" then return (← self .expression).starred
  else if ← seesWord "yield" then yielding self
  else self .expression

/-! ### Atoms -/

/-- The replacement fields ahead, at most the given number. A field holds expressions, which may be
followed by `=`, by a conversion, and by a format that has fields itself. -/
def fields : Nat → Parser (List Tree)
  | 0 => return []
  | count + 1 => do
    if ← accept .fieldStart then
      let value ← yieldOrList self
      let _ ← acceptSymbol "="
      let _ ← accept .conversion
      let inner ← if ← accept .format then fields count else pure []
      expect .fieldEnd
      return value.parts ++ inner ++ (← fields count)
    else return []

/-- One string. -/
def string : Parser (List Tree) := do
  if ← accept .string then return []
  else
    expect .formatStart
    let parts ← fields self (← get).tokens.length
    expect .formatEnd
    return parts

/-- A string is next. -/
def seesString : Parser Bool := do
  return (← sees .string) || (← sees .formatStart)

/-- Strings one after the other. -/
def strings : Parser (List Tree) := do
  let first ← string self
  return first ++ (← repeatWhile seesString (string self)).flatten

/-- An identifier, or one of the words that stand for a value. -/
def name : Parser Operand := do
  let name ← word
  if ["True", "False", "None"].contains name.text then return .plain []
  else return ⟨.identifier name, []⟩

/-! ### Comprehensions -/

/-- Something to assign to. -/
def target : Parser Operand := do
  let starred ← acceptSymbol "*"
  let operand ← self .operand
  let operand := if starred then operand.starred else operand
  if operand.form.isTarget then return operand else failure

/-- Things to assign to, up to the word `in`. -/
def targets : Parser (List Tree) := do
  let begins := do return (← seesOperand) && !(← seesWord "in")
  return Operand.allParts (← separated begins (target self))

/-- One clause of a comprehension. -/
def clause : Parser (List Tree) := do
  if ← acceptWord "if" then return (← self .expression).parts
  else
    let _ ← acceptWord "async"
    expectWord "for"
    let assigned ← targets self
    expectWord "in"
    let begins := do return (← seesOperand) && !(← seesWordOf ["for", "async", "if"])
    let values ← separated begins (self .expression)
    return assigned ++ Operand.allParts values

/-- The clauses of a comprehension. -/
def clauses : Parser (List Tree) := do
  return (← repeatWhile (seesWordOf ["for", "async", "if"]) (clause self)).flatten

/-! ### Brackets -/

/-- What follows the first element between brackets: a comprehension, or further elements. Several
elements, or one before a comma, are a target if all of them are. -/
def elementsAfter (close : String) (first : Operand) : Parser Operand := do
  if ← seesClause then
    let parts ← clauses self
    expectSymbol close
    return .plain (first.parts ++ parts)
  else if ← acceptSymbol "," then
    if ← acceptSymbol close then return .collect [first]
    else return .collect (first :: (← separatedUntil close (element self)))
  else
    expectSymbol close
    return .collect [first]

/-- A list, a tuple or an expression in parentheses. -/
def enclosed (opening close : String) : Parser Operand := do
  expectSymbol opening
  if ← acceptSymbol close then return .collect []
  else elementsAfter self close (← element self)

/-- An entry of a dictionary. -/
def entry : Parser (List Tree) := do
  if ← acceptSymbol "**" then return (← self .expression).parts
  else
    let key ← self .expression
    expectSymbol ":"
    return key.parts ++ (← self .expression).parts

/-- The rest of a dictionary after its first entry. -/
def entriesAfter (first : List Tree) : Parser Operand := do
  if ← seesClause then
    let parts ← clauses self
    expectSymbol "\x7d"
    return .plain (first ++ parts)
  else if ← acceptSymbol "," then
    if ← acceptSymbol "\x7d" then return .plain first
    else return .plain (first ++ (← separatedUntil "\x7d" (entry self)).flatten)
  else
    expectSymbol "\x7d"
    return .plain first

/-- A dictionary or a set. -/
def braces : Parser Operand := do
  expectSymbol "\x7b"
  if ← acceptSymbol "\x7d" then return .plain []
  else if ← acceptSymbol "," then
    expectSymbol "\x7d"
    return .plain []
  else if ← seesSymbol "**" then entriesAfter self (← entry self)
  else
    let first ← element self
    if ← acceptSymbol ":" then
      let value ← self .expression
      entriesAfter self (first.parts ++ value.parts)
    else return .plain (← elementsAfter self "\x7d" first).parts

/-- An operand without anything before or after it. -/
def atom : Parser Operand := do
  match ← peek? with
  | some (.name _) => name
  | some .string | some .formatStart => return .plain (← strings self)
  | some .number | some (.symbol "...") =>
    let _ ← next
    return .plain []
  | some (.symbol "(") => enclosed self "(" ")"
  | some (.symbol "[") => enclosed self "[" "]"
  | some (.symbol "\x7b") => braces self
  | _ => failure

/-! ### Attributes, subscripts and calls -/

/-- An argument of a call. -/
def argument : Parser (List Tree) := do
  if ← acceptSymbol "*" then return (← self .expression).parts
  else if ← acceptSymbol "**" then return (← self .expression).parts
  else
    let operand ← self .expression
    match operand.form, ← acceptSymbol "=" with
    | _, false => return operand.parts
    | .identifier _, true => return (← self .expression).parts
    | _, true => failure

/-- The arguments of a call, in parentheses. -/
def arguments : Parser (List Tree) := do
  expectSymbol "("
  if ← acceptSymbol ")" then return []
  else if ← acceptSymbol "," then
    expectSymbol ")"
    return []
  else
    let first ← argument self
    if ← seesClause then
      let parts ← clauses self
      expectSymbol ")"
      return first ++ parts
    else if ← acceptSymbol "," then
      if ← acceptSymbol ")" then return first
      else return first ++ (← separatedUntil ")" (argument self)).flatten
    else
      expectSymbol ")"
      return first

/-- An item between the brackets of a subscript: an expression or a slice. -/
def subscriptItem : Parser (List Tree) := do
  let bound : Parser (List Tree) := do
    if ← seesSymbolOf [":", ",", "]"] then return [] else return (← self .expression).parts
  if ← seesSymbolOf [",", "]"] then failure
  let lower ← bound
  if ← acceptSymbol ":" then
    let upper ← bound
    if ← acceptSymbol ":" then return lower ++ upper ++ (← bound) else return lower ++ upper
  else return lower

/-- The attributes, subscripts and calls after an operand that starts at `start`, at most the given
number. The callee of a call is the text from there to the call's arguments. -/
def suffixes (start : Place) : Nat → Operand → Parser Operand
  | 0, operand => return operand
  | count + 1, operand => do
    if ← acceptSymbol "." then
      let _ ← word
      suffixes start count ⟨.place, operand.parts⟩
    else if ← acceptSymbol "[" then
      let items ← separatedUntil "]" (subscriptItem self)
      suffixes start count ⟨.place, operand.parts ++ items.flatten⟩
    else if ← seesSymbol "(" then
      let callee ← textSince start
      let arguments ← arguments self
      let call := Tree.call callee (start.row + 1) (operand.parts ++ arguments)
      suffixes start count (.plain [call])
    else return operand

/-- An operand without prefixes that counts as starting at `start`. -/
def operandFrom (start : Place) : Parser Operand := do
  suffixes self start (← get).tokens.length (← atom self)

/-- An operand without prefixes. -/
def operand : Parser Operand := do
  operandFrom self (← here)

/-! ### Chains -/

/-- A prefix of an operand is next. -/
def seesPrefix : Parser Bool := do
  if ← seesWord "await" then return (← peekSecond?).any awaits
  else seesSymbolOf ["-", "+", "~"]

/-- An operand with its prefixes. A star belongs to the operand, also as the callee of a call. -/
def prefixed : Parser Operand := do
  let start ← here
  if ← acceptSymbol "*" then
    let operand ← operandFrom self start
    return operand.starred
  else
    let prefixes ← repeatWhile seesPrefix next
    let operand ← operand self
    return if prefixes.isEmpty then operand else .plain operand.parts

/-- Takes an infix operator, if one is next; a whole condition may follow `and` and `or`, and an
operand the others. -/
def acceptInfix : Parser (Option Bool) := do
  if ← seesWordOf ["and", "or"] then
    let _ ← next
    return some true
  else if ← acceptWord "is" then
    let _ ← acceptWord "not"
    return some false
  else if ← acceptWord "in" then return some false
  else if (← seesWord "not") && (← peekSecond?) = some (.name "in") then
    let _ ← next
    let _ ← next
    return some false
  else if ← seesSymbolOf infixSymbols then
    let _ ← next
    return some false
  else return none

/-- A parameter of a function, with an annotation where `annotated` allows one. -/
def parameter (annotated : Bool) : Parser (List Tree) := do
  let annotation : Parser (List Tree) := do
    if annotated then
      if ← acceptSymbol ":" then return (← self .expression).parts
    return []
  let default : Parser (List Tree) := do
    if ← acceptSymbol "=" then return (← self .expression).parts else return []
  if ← acceptSymbol "/" then return []
  else if ← acceptSymbol "*" then
    match ← peek? with
    | some (.name _) =>
      let _ ← word
      annotation
    | _ => return []
  else if ← acceptSymbol "**" then
    let _ ← word
    annotation
  else if ← seesSymbol "(" then
    let operand ← target self
    return operand.parts ++ (← default)
  else
    let _ ← word
    let type ← annotation
    return type ++ (← default)

/-- A function without a name. -/
def lambda : Parser Operand := do
  expectWord "lambda"
  if ← acceptSymbol ":" then return .plain (← self .expression).parts
  else
    let parameters ← separatedUntil ":" (parameter self false)
    return .plain (parameters.flatten ++ (← self .expression).parts)

/-- What may stand at the front of a condition: negations, and then an operand, a function without a
name, or an assignment to an identifier by `:=`. -/
def negated : Parser Operand := do
  let negations ← repeatWhile (seesWord "not") next
  let operand ← if ← seesWord "lambda" then lambda self else prefixed self
  let operand ← match operand.form, ← seesSymbol ":=" with
    | .identifier _, true => do
      expectSymbol ":="
      pure (.plain (← self .expression).parts)
    | _, _ => pure operand
  return if negations.isEmpty then operand else .plain operand.parts

/-- The operands after the first one of a chain, at most the given number. -/
def chainAfter : Nat → Operand → Parser Operand
  | 0, operand => return operand
  | count + 1, operand => do
    match ← acceptInfix with
    | none => return operand
    | some condition =>
      let right ← if condition then negated self else prefixed self
      chainAfter count (.plain (operand.parts ++ right.parts))

/-- Operands joined by infix operators. -/
def chain : Parser Operand := do
  chainAfter self (← get).tokens.length (← negated self)

/-- The `if … else …` part of an expression, if one is next; an `if` without `else` belongs to what
is around the expression. -/
def alternative (operand : Operand) : Parser Operand :=
  (do
    expectWord "if"
    let condition ← self .expression
    expectWord "else"
    let otherwise ← self .expression
    return .plain (operand.parts ++ condition.parts ++ otherwise.parts)) <|> pure operand

/-- An expression. -/
def expression : Parser Operand := do
  let operand ← alternative self (← chain self)
  if ← acceptWord "as" then
    let target ← self .expression
    return .plain (operand.parts ++ target.parts)
  else return operand

end Grammar

end SymbolGraph.Python.Parser
