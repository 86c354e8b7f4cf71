import SymbolGraph.Text.Blank
import SymbolGraph.Text.Cursor

/-!
# JavaScript lexemes

`Lexeme.read` is the next word, number, string or symbol of a program, together with what is known
of the gap before it. Which lexeme a slash or an angle bracket begins depends on the grammar, so
regular expressions, templates and markup are read on demand: `regexSize?` and `templateStop` give
the lengths of their texts.
-/

set_option autoImplicit false

namespace SymbolGraph.JavaScript

open Text (Place Cursor)

/-! ### Gaps -/

/-- What stands before a lexeme. -/
structure Gap where
  /-- A line ends outside of the comments. -/
  newline : Bool
  /-- Where the first comment starts and stops. -/
  comment : Option (Place × Place)
  /-- Where a comment up to the end of the line stops that follows the last lexeme on its line. -/
  remark : Option Place
  deriving DecidableEq, Repr

namespace Gap

/-- No gap. -/
def none : Gap := ⟨false, Option.none, Option.none⟩

/-- The characters that end a line. -/
def isLineEnd (character : Char) : Bool :=
  character = '\n' || character = '\u2028' || character = '\u2029'

/-- What a gap is read as. -/
inductive Mode where
  | blank
  /-- A comment up to the end of the line. -/
  | remark (start : Place)
  /-- A comment between marks; `starred` when its last character was a star. -/
  | block (start : Place) (starred : Bool)

/-- The gap with a character that is blank or ends a comment. -/
def addBlank (gap : Gap) (character : Char) : Gap :=
  { gap with newline := gap.newline || isLineEnd character }

/-- The gap with a comment. -/
def addComment (gap : Gap) (start stop : Place) : Gap :=
  { gap with comment := gap.comment <|> some (start, stop) }

/-- The gap with a comment up to the end of the line. -/
def addRemark (gap : Gap) (start stop : Place) : Gap :=
  { gap.addComment start stop with
    remark := if gap.newline then gap.remark else gap.remark <|> some stop }

/-- The gap ahead and where it ends, unless a comment in it is not closed. -/
def read (mode : Mode) (gap : Gap) (place : Place) : List Char → Option (Gap × Cursor)
  | [] =>
    match mode with
    | .blank => some (gap, ⟨[], place⟩)
    | .remark start => some (gap.addRemark start place, ⟨[], place⟩)
    | .block _ _ => Option.none
  | character :: rest =>
    let onward := place.after character
    match mode with
    | .block start starred =>
      if starred ∧ character = '/' then read .blank (gap.addComment start onward) onward rest
      else read (.block start (character = '*')) gap onward rest
    | .remark start =>
      if isLineEnd character ∨ character = '\r' then
        read .blank ((gap.addRemark start place).addBlank character) onward rest
      else read (.remark start) gap onward rest
    | .blank =>
      if Text.isSpacing character then read .blank (gap.addBlank character) onward rest
      else
        match character, rest with
        | '/', '/' :: others => read (.remark place) gap (onward.after '/') others
        | '/', '*' :: others => read (.block place false) gap (onward.after '*') others
        | _, _ => some (gap, ⟨character :: rest, place⟩)

end Gap

/-! ### Words, numbers and strings -/

/-- The characters below the letters that cannot stand in a word. -/
def wordBreaks : List Char :=
  ":;`\"'@#.,|^&<=>+-*/\\%?!~()[]\x7b\x7d".toList

/-- A character that continues a word. -/
def continuesWord (character : Char) : Bool :=
  0x1F < character.toNat && !Text.isSpacing character && !wordBreaks.contains character

/-- A hexadecimal digit. -/
def isHexDigit (character : Char) : Bool :=
  character.isDigit || ('a' ≤ character && character ≤ 'f') ||
    ('A' ≤ character && character ≤ 'F')

/-- The length of a code point's escape after its backslash, zero if there is none. -/
def escapeSize : List Char → Nat
  | 'u' :: '{' :: rest =>
    let digits := (rest.takeWhile isHexDigit).length
    if digits ≠ 0 ∧ (rest.drop digits).head? = some '}' then digits + 3 else 0
  | 'u' :: rest => if (rest.take 4).length = 4 ∧ (rest.take 4).all isHexDigit then 5 else 0
  | _ => 0

/-- The length of the word's rest at the front, after a number of characters that are known to
belong to it. -/
def wordRestSize : Nat → List Char → Nat
  | _, [] => 0
  | known + 1, _ :: rest => 1 + wordRestSize known rest
  | 0, character :: rest =>
    if continuesWord character then 1 + wordRestSize 0 rest
    else if character = '\\' ∧ escapeSize rest ≠ 0 then 1 + wordRestSize (escapeSize rest) rest
    else 0

/-- The length of the word at the front, zero if there is none. -/
def wordSize : List Char → Nat
  | [] => 0
  | first :: rest => if first.isDigit then 0 else wordRestSize 0 (first :: rest)

/-- The length of the digits at the front, where an underscore may stand between two digits. -/
def digitsSize (isDigit : Char → Bool) : Bool → List Char → Nat
  | _, [] => 0
  | afterDigit, first :: rest =>
    if isDigit first then 1 + digitsSize isDigit true rest
    else if first = '_' ∧ afterDigit ∧ rest.head?.any isDigit then
      1 + digitsSize isDigit false rest
    else 0

/-- The length of the exponent at the front. -/
def exponentSize : List Char → Nat
  | 'e' :: rest | 'E' :: rest =>
    let sign := match rest with
      | '+' :: _ | '-' :: _ => 1
      | _ => 0
    match digitsSize Char.isDigit false (rest.drop sign) with
    | 0 => 0
    | size => 1 + sign + size
  | _ => 0

/-- The length of the mark of a large whole number at the front. -/
def largeMarkSize (text : List Char) : Nat :=
  if text.head? = some 'n' then 1 else 0

/-- The length of the decimal number at the front. -/
def decimalSize (text : List Char) : Nat :=
  let whole := digitsSize Char.isDigit false text
  match text.drop whole with
  | '.' :: fraction =>
    let size := whole + 1 + digitsSize Char.isDigit false fraction
    size + exponentSize (text.drop size)
  | rest => whole + max (exponentSize rest) (largeMarkSize rest)

/-- The length of the number with a marked base at the front, zero if there is none. -/
def markedSize : List Char → Nat
  | '0' :: base :: rest =>
    let isDigit : Option (Char → Bool) :=
      if base = 'x' ∨ base = 'X' then some isHexDigit
      else if base = 'o' ∨ base = 'O' then some fun digit ↦ '0' ≤ digit && digit ≤ '7'
      else if base = 'b' ∨ base = 'B' then some fun digit ↦ digit = '0' || digit = '1'
      else none
    match isDigit with
    | none => 0
    | some isDigit =>
      match digitsSize isDigit false rest with
      | 0 => 0
      | size => 2 + size + largeMarkSize (rest.drop size)
  | _ => 0

/-- The length of the number at the front. -/
def numberSize? (text : List Char) : Option Nat :=
  let begins := match text with
    | '.' :: digit :: _ => digit.isDigit
    | digit :: _ => digit.isDigit
    | [] => false
  if begins then some (max (markedSize text) (decimalSize text)) else none

/-- The length of a string's rest, with the closing mark, when `count` characters of it are read. A
line that is not continued by a backslash ends no string. -/
def stringSize? (mark : Char) (count : Nat) : List Char → Option Nat
  | [] => none
  | '\\' :: '\r' :: '\n' :: rest => stringSize? mark (count + 3) rest
  | '\\' :: next :: rest =>
    let isEscape := match next with
      | 'x' => (rest.take 2).length = 2 && (rest.take 2).all isHexDigit
      | 'u' => escapeSize (next :: rest) ≠ 0
      | _ => true
    if isEscape then stringSize? mark (count + 2) rest else none
  | character :: rest =>
    if character = mark then some (count + 1)
    else if character = '\n' ∨ character = '\r' then none
    else stringSize? mark (count + 1) rest

/-- The length of a regular expression's text, with the closing slash, when `count` characters of it
are read. A slash in a class of characters (`inClass`) does not close it. -/
def regexSize? (inClass : Bool) (count : Nat) : List Char → Option Nat
  | [] => none
  | '\\' :: next :: rest => if next = '\n' then none else regexSize? inClass (count + 2) rest
  | character :: rest =>
    if character = '\n' then none
    else if character = '/' ∧ inClass = false then if count = 0 then none else some (count + 1)
    else if character = '[' then regexSize? true (count + 1) rest
    else if character = ']' then regexSize? false (count + 1) rest
    else regexSize? inClass (count + 1) rest

/-- The length of a template's text up to its closing mark (`true`) or its next substitution
(`false`), with the mark or the substitution's opening. -/
def templateStop (count : Nat) : List Char → Option (Nat × Bool)
  | [] => none
  | '\\' :: _ :: rest => templateStop (count + 2) rest
  | '$' :: '{' :: _ => some (count + 2, false)
  | '`' :: _ => some (count + 1, true)
  | _ :: rest => templateStop (count + 1) rest

/-! ### Lexemes -/

/-- The kinds of lexemes. -/
inductive LexemeKind where
  /-- An identifier or a keyword. -/
  | word (text : String)
  /-- The name of a private member, with its mark. -/
  | privateName
  | number
  | string
  | symbol (text : String)
  /-- The end of the program. -/
  | finish
  /-- A character that begins no lexeme, or something that is not closed. -/
  | invalid
  deriving DecidableEq, Repr

/-- A lexeme, where it starts and stops, and the gap before it. -/
structure Lexeme where
  kind : LexemeKind
  start : Cursor
  stop : Cursor
  gap : Gap

/-- The symbols of more than one character, the longer ones first. -/
def longSymbols : List String :=
  [">>>=", "...", "===", "!==", "**=", "<<=", ">>=", ">>>", "&&=", "||=", "??=", "=>", "==", "!=",
   "<=", ">=", "&&", "||", "??", "?.", "++", "--", "+=", "-=", "*=", "/=", "%=", "&=", "|=", "^=",
   "**", "<<", ">>"]

/-- The symbols of one character. -/
def shortSymbols : List Char :=
  "\x7b\x7d()[];,<>+-*/%&|^!~?:=.@`".toList

/-- The symbol at the front. A question mark before a fraction stands alone. -/
def symbol? (text : List Char) : Option String :=
  match text with
  | '?' :: '.' :: digit :: _ =>
    if digit.isDigit then some "?" else some "?."
  | _ =>
    match longSymbols.find? fun symbol ↦ symbol.toList.isPrefixOf text with
    | some symbol => some symbol
    | none =>
      match text with
      | first :: _ => if first ∈ shortSymbols then some first.toString else none
      | [] => none

/-- The lexeme at a position, and the number of its characters. -/
def LexemeKind.ofText (text : List Char) : LexemeKind × Nat :=
  match text with
  | [] => (.finish, 0)
  | first :: rest =>
    if first = '"' ∨ first = '\'' then
      match stringSize? first 1 rest with
      | some size => (.string, size)
      | none => (.invalid, text.length)
    else if first = '#' then
      match wordSize rest with
      | 0 => (.invalid, text.length)
      | size => (.privateName, 1 + size)
    else
      match wordSize text, numberSize? text, symbol? text with
      | 0, some size, _ => (.number, size)
      | 0, none, some found => (.symbol found, found.length)
      | 0, none, none => (.invalid, text.length)
      | size, _, _ => (.word (String.ofList (text.take size)), size)

namespace Lexeme

/-- The next lexeme after a position. -/
def read (cursor : Cursor) : Lexeme :=
  match Gap.read .blank .none cursor.place cursor.rest with
  | some (gap, start) =>
    let (kind, size) := LexemeKind.ofText start.rest
    ⟨kind, start, start.drop size, gap⟩
  | none => ⟨.invalid, cursor, ⟨[], cursor.place⟩, .none⟩

end Lexeme

end SymbolGraph.JavaScript
