import SymbolGraph.Python.Token
import SymbolGraph.Python.Tree

/-!
# Parsing Python tokens

A `Parser` takes tokens off the front of what remains of a program and may fail. The primitives
look at the next token, take it, and repeat a parser while a test on the next token holds; a
repetition is bounded by the number of tokens, since every round takes one at least. `Operand` is
what the parser of an expression finds: its parts, and whether it may stand on the left of an
assignment.
-/

set_option autoImplicit false

namespace SymbolGraph.Python

open Text (Place)

/-- What remains of a program. -/
structure Remaining where
  source : String
  tokens : List Token
  /-- Where the last token that was taken stops. -/
  last : Place
  /-- The layout after that token, when it ends a line. -/
  ahead : Layout

/-- A parser of what remains of a program. -/
abbrev Parser := StateT Remaining Option

namespace Parser

/-- The kind of the next token. -/
def peek? : Parser (Option TokenKind) := do
  return (← get).tokens.head?.map (·.kind)

/-- The kind of the token after the next one. -/
def peekSecond? : Parser (Option TokenKind) := do
  return (← get).tokens[1]?.map (·.kind)

/-- The next token is of the given kind. -/
def sees (kind : TokenKind) : Parser Bool := do
  return (← peek?) = some kind

/-- The next token is the symbol. -/
def seesSymbol (text : String) : Parser Bool :=
  sees (.symbol text)

/-- The next token is one of the symbols. -/
def seesSymbolOf (texts : List String) : Parser Bool := do
  match ← peek? with
  | some (.symbol text) => return texts.contains text
  | _ => return false

/-- The next token is the word. -/
def seesWord (text : String) : Parser Bool :=
  sees (.name text)

/-- The next token is one of the words. -/
def seesWordOf (texts : List String) : Parser Bool := do
  match ← peek? with
  | some (.name text) => return texts.contains text
  | _ => return false

/-- The next token ends a line. -/
def seesLineEnd : Parser Bool := do
  match ← peek? with
  | some (.newline _) => return true
  | _ => return false

/-- Takes the next token. -/
def next : Parser Token := do
  let remaining ← get
  match remaining.tokens with
  | [] => failure
  | token :: tokens =>
    let ahead := match token.kind with
      | .newline ahead => ahead
      | _ => ⟨0, []⟩
    set { remaining with tokens := tokens, last := token.stop, ahead := ahead }
    return token

/-- Takes the next token if it is of the given kind. -/
def accept (kind : TokenKind) : Parser Bool := do
  if ← sees kind then
    let _ ← next
    return true
  else return false

/-- Takes the next token if it is the symbol. -/
def acceptSymbol (text : String) : Parser Bool :=
  accept (.symbol text)

/-- Takes the next token if it is the word. -/
def acceptWord (text : String) : Parser Bool :=
  accept (.name text)

/-- Takes the next token, which must be of the given kind. -/
def expect (kind : TokenKind) : Parser Unit := do
  if ← accept kind then return () else failure

/-- Takes the next token, which must be the symbol. -/
def expectSymbol (text : String) : Parser Unit :=
  expect (.symbol text)

/-- Takes the next token, which must be the word. -/
def expectWord (text : String) : Parser Unit :=
  expect (.name text)

/-- Takes the end of the line. -/
def expectLineEnd : Parser Unit := do
  if ← seesLineEnd then let _ ← next else failure

/-- Takes a word. -/
def word : Parser Identifier := do
  match (← next).kind with
  | .name text => (Identifier.ofString? text : Option Identifier)
  | _ => failure

/-- Where the next token starts. -/
def here : Parser Place := do
  match (← get).tokens with
  | [] => failure
  | token :: _ => return token.start

/-- Where the last token stops. -/
def last : Parser Place := do
  return (← get).last

/-- The text from a position to the end of the last token. -/
def textSince (start : Place) : Parser String := do
  let remaining ← get
  return Text.slice remaining.source start remaining.last

/-- Repeats a parser while a test holds, at most the given number of times. -/
def repeatUpTo {α : Type} (more : Parser Bool) (item : Parser α) : Nat → Parser (List α)
  | 0 => return []
  | count + 1 => do
    if ← more then
      let first ← item
      return first :: (← repeatUpTo more item count)
    else return []

/-- Repeats a parser that takes a token at least, while a test holds. -/
def repeatWhile {α : Type} (more : Parser Bool) (item : Parser α) : Parser (List α) := do
  repeatUpTo more item (← get).tokens.length

/-- Items with commas between them; a comma after which no item begins ends the list. -/
def separated {α : Type} (begins : Parser Bool) (item : Parser α) : Parser (List α) := do
  let first ← item
  let rest ← repeatWhile (seesSymbol ",") do
    expectSymbol ","
    if ← begins then return some (← item) else return none
  if (rest.dropLast.all Option.isSome) then return first :: rest.filterMap id else failure

/-- Items with commas between them up to the symbol that closes them, which is taken as well. -/
def separatedUntil {α : Type} (close : String) (item : Parser α) : Parser (List α) := do
  let items ← separated (return !(← seesSymbol close)) item
  expectSymbol close
  return items

end Parser

/-! ### Expressions that were read -/

/-- How an expression may be used on the left of an assignment. -/
inductive Form where
  /-- A plain identifier. -/
  | identifier (name : Identifier)
  /-- An attribute or a subscript. -/
  | place
  /-- A list or tuple of targets, or a starred one. -/
  | pattern
  /-- No target. -/
  | other
  deriving DecidableEq, Repr

/-- The expression may be assigned to. -/
def Form.isTarget : Form → Bool
  | .other => false
  | _ => true

/-- An expression that was read: its form and the parts that are kept of it. -/
structure Operand where
  form : Form
  parts : List Tree

namespace Operand

/-- An expression that is no target. -/
def plain (parts : List Tree) : Operand := ⟨.other, parts⟩

/-- The parts of several expressions. -/
def allParts (operands : List Operand) : List Tree :=
  operands.flatMap (·.parts)

/-- Several expressions in one, which is a target if all of them are. -/
def collect (operands : List Operand) : Operand where
  form := if operands.all (·.form.isTarget) then .pattern else .other
  parts := allParts operands

/-- A starred expression. -/
def starred (operand : Operand) : Operand where
  form := match operand.form with
    | .identifier _ | .place => .pattern
    | _ => .other
  parts := operand.parts

end Operand

/-- The parsers that call one another through nested constructs. -/
inductive Rule where
  | expression
  /-- An operand without prefixes. -/
  | operand
  /-- A pattern of a `case`. -/
  | pattern
  /-- A statement in a block of the given indentation. -/
  | statement (level : Nat)

end SymbolGraph.Python
