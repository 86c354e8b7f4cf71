import SymbolGraph.Python.Token
import SymbolGraph.Python.Token.Literal
import SymbolGraph.Text.Blank
import SymbolGraph.Text.Identifier

/-!
# Reading Python tokens

`Token.ofSource` is the list of a program's tokens. Blanks, comments and backslashes at the ends of
lines stand between tokens. A line feed ends a logical line when the line has a token and no
bracket is open (`gap`), and `Layout.read` then looks ahead to the next line of code. Strings with
replacement fields nest, so the reading keeps a stack of what is open (`Frame`).
-/

set_option autoImplicit false

namespace SymbolGraph.Python

open Text (Place Cursor)

/-! ### Line ends -/

/-- The layout ahead of a line feed, after a number of columns of indentation: a space is one
column, a tab eight, and a carriage return or form feed starts anew. Inside a comment (`comment`,
with the comment's own indentation) everything up to the line feed is skipped; comments on lines of
their own are collected. -/
def Layout.read (columns : Nat) (comment : Option Nat) (comments : List LooseComment)
    (place : Place) : List Char → Layout
  | [] => ⟨0, comments ++ (comment.map (⟨·, place⟩)).toList⟩
  | character :: rest =>
    let onward := place.after character
    match comment, character with
    | some indent, '\n' => read 0 none (comments ++ [⟨indent, place⟩]) onward rest
    | some _, _ => read columns comment comments onward rest
    | none, '\n' | none, '\r' | none, '\x0c' => read 0 none comments onward rest
    | none, ' ' => read (columns + 1) none comments onward rest
    | none, '\t' => read (columns + 8) none comments onward rest
    | none, '#' => read columns (some columns) comments onward rest
    | none, '\\' =>
      match rest with
      | '\n' :: others => read columns none comments (onward.after '\n') others
      | '\r' :: '\n' :: others =>
        read columns none comments ((onward.after '\r').after '\n') others
      | [] => ⟨0, comments⟩
      | _ => ⟨columns, comments⟩
    | none, _ => ⟨columns, comments⟩

/-- What stands before the next token. -/
inductive Gap where
  /-- The logical line ends; its last token or comment stops at `mark`. -/
  | lineEnd (mark : Place) (ahead : Cursor)
  /-- The next token, or the end of the program, is ahead. -/
  | token (ahead : Cursor)

/-- The gap ahead. A line feed ends the line when `ends` holds, unless spacing other than spaces,
tabs, carriage returns and form feeds stands before it (`hidden`). A comment goes up to the line
feed and counts as the line's last part. -/
def gap (ends : Bool) (hidden inComment : Bool) (mark place : Place) : List Char → Gap
  | [] =>
    if ends ∧ hidden = false then .lineEnd (if inComment then place else mark) ⟨[], place⟩
    else .token ⟨[], place⟩
  | character :: rest =>
    let onward := place.after character
    if character = '\n' then
      let mark := if inComment then place else mark
      if ends ∧ hidden = false then .lineEnd mark ⟨character :: rest, place⟩
      else gap ends hidden false mark onward rest
    else if inComment then gap ends hidden true mark onward rest
    else if character = '#' then gap ends false true mark onward rest
    else if character = '\\' then
      match rest with
      | '\n' :: others => gap ends hidden false mark (onward.after '\n') others
      | '\r' :: '\n' :: others =>
        gap ends hidden false mark ((onward.after '\r').after '\n') others
      | [] => gap ends hidden false mark onward []
      | _ => .token ⟨character :: rest, place⟩
    else if character ∈ [' ', '\t', '\r', '\x0c'] then gap ends hidden false mark onward rest
    else if Text.isSpacing character then gap ends true false mark onward rest
    else .token ⟨character :: rest, place⟩

/-! ### Tokens -/

/-- What is open around a place in a program. -/
inductive Frame where
  | bracket
  /-- A replacement field. -/
  | field
  /-- The format of a replacement field. -/
  | format
  /-- The text of a string with replacement fields. -/
  | text (quote : Quote)
  deriving DecidableEq, Repr

/-- The symbols of more than one character, the longer ones first. -/
def longSymbols : List String :=
  ["**=", "//=", ">>=", "<<=", "...", "**", "//", ">>", "<<", "<=", ">=", "==", "!=", "<>", "->",
   ":=", "+=", "-=", "*=", "/=", "%=", "@=", "&=", "|=", "^="]

/-- The symbols of one character. -/
def shortSymbols : List Char :=
  "()[]\x7b\x7d,:.;@=+-*/%&|^~<>".toList

/-- The symbol at the front. -/
def symbol? (text : List Char) : Option String :=
  match longSymbols.find? fun symbol ↦ symbol.toList.isPrefixOf text with
  | some symbol => some symbol
  | none =>
    match text with
    | first :: _ => if first ∈ shortSymbols then some first.toString else none
    | [] => none

/-- A reading in progress. -/
structure Reading where
  ahead : Cursor
  frames : List Frame
  /-- Where the last token stops. -/
  mark : Place
  /-- The logical line has a token. -/
  lineOpen : Bool

namespace Reading

/-- The beginning of a program. -/
def ofSource (source : String) : Reading :=
  ⟨.ofString source, [], .origin, false⟩

/-- A token of the given kind up to a position, and the reading after it. -/
def emit (start : Cursor) (kind : TokenKind) (stop : Cursor) (frames : List Frame) :
    Token × Reading :=
  (⟨kind, start.place, stop.place⟩, ⟨stop, frames, stop.place, true⟩)

/-- Gives the reading up. -/
def abandon (start : Cursor) : Token × Reading :=
  emit start .invalid ⟨[], start.place⟩ []

/-- The token that a string begins with: the whole string when it has no replacement fields. -/
def string (start : Cursor) (quote : Quote) (size : Nat) (frames : List Frame) : Token × Reading :=
  let inside := start.drop size
  if quote.fields then emit start .formatStart inside (.text quote :: frames)
  else
    match quote.scan true false 0 inside.rest with
    | (count, .closed) => emit start .string (inside.drop (count + quote.size)) frames
    | _ => abandon start

/-- The token for a symbol, which may open or close a frame. -/
def symbol (start : Cursor) (text : String) (frames : List Frame) : Token × Reading :=
  let stop := start.drop text.length
  match frames, text with
  | .field :: others, ":" => emit start .format stop (.format :: others)
  | .field :: others, "\x7d" => emit start .fieldEnd stop others
  | _, "(" | _, "[" | _, "\x7b" => emit start (.symbol text) stop (.bracket :: frames)
  | .bracket :: others, ")" | .bracket :: others, "]" | .bracket :: others, "\x7d" =>
    emit start (.symbol text) stop others
  | _, _ => emit start (.symbol text) stop frames

/-- The conversion at the front of a replacement field's end. -/
def isConversion (frames : List Frame) (text : List Char) : Bool :=
  match frames, text with
  | .field :: _, '!' :: letter :: _ => 'a' ≤ letter && letter ≤ 'z'
  | _, _ => false

/-- The token of the program text at a position. -/
def code (start : Cursor) (frames : List Frame) : Option (Token × Reading) :=
  match start.rest with
  | [] => none
  | first :: _ =>
    some <|
      match Quote.ofText? start.rest with
      | some (quote, size) => string start quote size frames
      | none =>
        if first = '_' ∨ Text.isIdentifierStart first then
          let word := start.rest.takeWhile Text.isIdentifierContinue
          emit start (.name (String.ofList word)) (start.drop word.length) frames
        else if isConversion frames start.rest then emit start .conversion (start.drop 2) frames
        else
          match numberSize? start.rest, symbol? start.rest with
          | some size, _ => emit start .number (start.drop size) frames
          | none, some text => symbol start text frames
          | none, none => abandon start

/-- The next token of a string with replacement fields. -/
def text (start : Cursor) (quote : Quote) (frames : List Frame) : Token × Reading :=
  let (count, stop) := quote.scan true false 0 start.rest
  let found := start.drop count
  match stop with
  | .closed => emit found .formatEnd (found.drop quote.size) frames
  | .field => emit found .fieldStart found.next (.field :: .text quote :: frames)
  | .broken => abandon found

/-- The next token of a replacement field's format. -/
def format (start : Cursor) (frames : List Frame) : Token × Reading :=
  let found := start.dropWhile fun character ↦ character ≠ '{' ∧ character ≠ '}'
  match found.rest with
  | '{' :: _ => emit found .fieldStart found.next (.field :: .format :: frames)
  | '}' :: _ => emit found .fieldEnd found.next frames
  | _ => abandon found

/-- The next token and the reading after it, or nothing at the end of the program. -/
def next? (reading : Reading) : Option (Token × Reading) :=
  match reading.frames with
  | .text quote :: frames => some (text reading.ahead quote frames)
  | .format :: frames => some (format reading.ahead frames)
  | frames =>
    let ends := reading.lineOpen && frames.isEmpty
    match gap ends false false reading.mark reading.ahead.place reading.ahead.rest with
    | .lineEnd mark ahead =>
      some (⟨.newline (Layout.read 0 none [] ahead.place ahead.rest), mark, mark⟩,
        ⟨ahead, frames, mark, false⟩)
    | .token ahead => code ahead frames

/-- At most the given number of tokens. -/
def tokens : Nat → Reading → List Token
  | 0, _ => []
  | count + 1, reading =>
    match reading.next? with
    | none => []
    | some (token, onward) => token :: tokens count onward

end Reading

/-- The tokens of a program: there are at most two for every character, and a line end after the
last one. -/
def Token.ofSource (source : String) : List Token :=
  (Reading.ofSource source).tokens (2 * source.length + 2)

end SymbolGraph.Python
