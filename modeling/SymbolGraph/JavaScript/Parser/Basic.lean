import SymbolGraph.JavaScript.Lexeme
import SymbolGraph.JavaScript.Tree

/-!
# Parsing JavaScript lexemes

A `Parser` takes lexemes off the front of what remains of a program and may fail. The primitives
look at the next lexeme, take it, and repeat a parser while a test on the next lexeme holds; a
repetition is bounded by the budget of lexemes, since every round takes one at least. `Operand` is
what the parser of an expression finds: its parts, and what may be done with it. `semicolon` is the
end of a statement, which may be left out before the end of a block and at the end of a line.
-/

set_option autoImplicit false

namespace SymbolGraph.JavaScript

open Text (Place Cursor)

/-- What remains of a program. -/
structure Remaining where
  source : String
  ahead : Lexeme
  /-- The text after the last lexeme that was taken. -/
  behind : Cursor
  /-- Where what was read last stops. -/
  last : Place
  /-- No more lexemes than these are ahead. -/
  budget : Nat

/-- A parser of what remains of a program. -/
abbrev Parser := StateT Remaining Option

namespace Parser

/-- The next lexeme. -/
def peek : Parser Lexeme := do
  return (← get).ahead

/-- The next lexeme is of the given kind. -/
def sees (kind : LexemeKind) : Parser Bool := do
  return (← peek).kind = kind

/-- The next lexeme is the symbol. -/
def seesSymbol (text : String) : Parser Bool :=
  sees (.symbol text)

/-- The next lexeme is one of the symbols. -/
def seesSymbolOf (texts : List String) : Parser Bool := do
  match (← peek).kind with
  | .symbol text => return texts.contains text
  | _ => return false

/-- The next lexeme is the word. -/
def seesWord (text : String) : Parser Bool :=
  sees (.word text)

/-- The next lexeme is one of the words. -/
def seesWordOf (texts : List String) : Parser Bool := do
  match (← peek).kind with
  | .word text => return texts.contains text
  | _ => return false

/-- The lexeme after the next one. -/
def peekSecond : Parser Lexeme := do
  return .read (← peek).stop

/-- Goes on with the lexeme after a position, up to which the program is taken. -/
def resume (position : Cursor) : Parser Unit := do
  let remaining ← get
  match remaining.budget with
  | 0 => failure
  | budget + 1 =>
    set { remaining with
      ahead := .read position, behind := position, last := position.place, budget := budget }

/-- Takes the next lexeme. -/
def next : Parser Lexeme := do
  let lexeme ← peek
  match lexeme.kind with
  | .finish | .invalid => failure
  | _ =>
    resume lexeme.stop
    return lexeme

/-- Takes the next lexeme if it is of the given kind. -/
def accept (kind : LexemeKind) : Parser Bool := do
  if ← sees kind then
    let _ ← next
    return true
  else return false

/-- Takes the next lexeme if it is the symbol. -/
def acceptSymbol (text : String) : Parser Bool :=
  accept (.symbol text)

/-- Takes the next lexeme if it is the word. -/
def acceptWord (text : String) : Parser Bool :=
  accept (.word text)

/-- Takes the next lexeme, which must be of the given kind. -/
def expect (kind : LexemeKind) : Parser Unit := do
  if ← accept kind then return () else failure

/-- Takes the next lexeme, which must be the symbol. -/
def expectSymbol (text : String) : Parser Unit :=
  expect (.symbol text)

/-- Takes the next lexeme, which must be the word. -/
def expectWord (text : String) : Parser Unit :=
  expect (.word text)

/-- Takes a word. -/
def word : Parser Label := do
  match (← next).kind with
  | .word text => (Label.ofString? text : Option Label)
  | _ => failure

/-- Where the next lexeme starts. -/
def here : Parser Place := do
  return (← peek).start.place

/-- Where the last lexeme stops. -/
def last : Parser Place := do
  return (← get).last

/-- The text from a position to the end of the last lexeme. -/
def textSince (start : Place) : Parser String := do
  let remaining ← get
  return Text.slice remaining.source start remaining.last

/-- Repeats a parser while a test holds, at most the given number of times. -/
def repeatUpTo {α : Type} (more : Parser Bool) (item : Parser α) : Nat → Parser (List α)
  | 0 => return []
  | count + 1 => do
    if ← more then
      let first ← item
      return first :: (← repeatUpTo more item count)
    else return []

/-- Repeats a parser that takes a lexeme at least, while a test holds. -/
def repeatWhile {α : Type} (more : Parser Bool) (item : Parser α) : Parser (List α) := do
  repeatUpTo more item (← get).budget

/-- Items with commas between them up to the symbol that closes them, which is taken as well. Items
may be left out. -/
def sparseUntil {α : Type} (close : String) (item : Parser α) : Parser (List α) := do
  let items ← repeatWhile (return !(← seesSymbol close)) do
    if ← acceptSymbol "," then return none
    else
      let found ← item
      if ← seesSymbol close then return some found
      else
        expectSymbol ","
        return some found
  expectSymbol close
  return items.filterMap id

/-- Items with commas between them up to the symbol that closes them, which is taken as well. A
comma may follow the last item. -/
def separatedUntil {α : Type} (close : String) (item : Parser α) : Parser (List α) := do
  let items ← repeatWhile (return !(← seesSymbol close)) do
    let found ← item
    if ← seesSymbol close then return found
    else
      expectSymbol ","
      return found
  expectSymbol close
  return items

/-! ### Ends of statements -/

/-- The next lexeme goes on with a statement at the end of a line. -/
def continuesStatement (lexeme : Lexeme) : Bool :=
  match lexeme.kind with
  | .symbol text =>
    !(["++", "--", "!", "\x7b", "\x7d", "@", "~", ")", "]"].contains text)
  | .word text => text = "in" || text = "instanceof"
  | _ => false

/-- The statement ends before the next lexeme even without a semicolon. -/
def seesImpliedEnd : Parser Bool := do
  let lexeme ← peek
  return lexeme.kind = .finish || lexeme.kind = .symbol "\x7d" ||
    (lexeme.gap.newline && !continuesStatement lexeme)

/-- The statement ends before the next lexeme. -/
def seesEnd : Parser Bool := do
  return (← seesSymbol ";") || (← seesImpliedEnd)

/-- Takes the end of a statement. -/
def semicolon : Parser Unit := do
  if ← acceptSymbol ";" then return ()
  else if ← seesImpliedEnd then return ()
  else failure

/-- Takes the comment at the end of the line into what was read last, when the line ends it like a
statement. -/
def takeRemark : Parser Unit := do
  let remaining ← get
  match remaining.ahead.gap.remark with
  | some place =>
    if (← seesImpliedEnd) && !(← seesSymbol "\x7d") then set { remaining with last := place }
  | none => return ()

end Parser

/-! ### Expressions that were read -/

/-- What an expression or a pattern is, as far as it matters to what is around it. -/
inductive Form where
  /-- A plain identifier. -/
  | identifier (name : Label)
  /-- A member or a subscript. -/
  | place
  /-- A list or object whose elements may be assigned to. -/
  | pattern
  /-- A pattern in braces. -/
  | braces (entries : List PatternEntry)
  /-- An assignment. -/
  | assignment
  /-- A call or a function by itself. -/
  | whole (tree : Tree)
  | other

/-- The expression may be assigned to. -/
def Form.isTarget : Form → Bool
  | .identifier _ | .place | .pattern | .braces _ => true
  | _ => false

/-- The expression may stand for a parameter. -/
def Form.isParameter : Form → Bool
  | .assignment => true
  | form => form.isTarget

/-- What a declarator with the pattern binds. -/
def Form.target : Form → Target
  | .identifier name => .identifier name
  | .braces entries => .braces entries
  | _ => .other

/-- An expression that was read: its form and the parts that are kept of it. -/
structure Operand where
  form : Form
  parts : List Tree

namespace Operand

/-- An expression of no special form. -/
def plain (parts : List Tree) : Operand := ⟨.other, parts⟩

/-- The parts of several expressions. -/
def allParts (operands : List Operand) : List Tree :=
  operands.flatMap (·.parts)

/-- Several expressions in one, which may be assigned to if they may stand for parameters. -/
def collect (operands : List Operand) : Operand where
  form := if operands.all (·.form.isParameter) then .pattern else .other
  parts := allParts operands

/-- A call or a function by itself. -/
def whole (tree : Tree) : Operand := ⟨.whole tree, [tree]⟩

/-- An expression as a value. -/
def value (operand : Operand) : Tree :=
  match operand.form with
  | .whole tree => tree
  | _ => .group operand.parts

end Operand

/-- The parsers that call one another through nested constructs. -/
inductive Rule where
  | expression
  /-- An operand without prefixes. -/
  | operand
  /-- Something that a declaration binds. -/
  | pattern
  | statement
  /-- Markup. -/
  | markup

end SymbolGraph.JavaScript
