/-!
# Python numbers and strings

`numberSize?` is the length of the number at the front of a text. `Quote.ofText?` recognises the
opening of a string, and `Quote.scan` runs over a string's text up to its end or its next
replacement field.
-/

set_option autoImplicit false

namespace SymbolGraph.Python

/-! ### Numbers -/

/-- The length of the digits at the front, where an underscore may follow a digit. -/
def digitsSize : Bool → List Char → Nat
  | _, [] => 0
  | afterDigit, first :: rest =>
    if first.isDigit then 1 + digitsSize true rest
    else if first = '_' ∧ afterDigit = true then 1 + digitsSize false rest
    else 0

/-- The length of the digits of a number whose base is marked, where an underscore may precede a
digit. -/
def markedDigitsSize (isDigit : Char → Bool) : List Char → Nat
  | [] => 0
  | first :: rest =>
    if isDigit first ∨ first = '_' ∧ rest.head?.any isDigit then
      1 + markedDigitsSize isDigit rest
    else 0

/-- One, when a given letter of either case is at the front. -/
def letterSize (lower upper : Char) : List Char → Nat
  | first :: _ => if first = lower ∨ first = upper then 1 else 0
  | [] => 0

/-- The length of the exponent at the front. -/
def exponentSize : List Char → Nat
  | 'e' :: rest | 'E' :: rest =>
    let sign := match rest with
      | '+' :: _ | '-' :: _ => 1
      | _ => 0
    match digitsSize false (rest.drop sign) with
    | 0 => 0
    | size => 1 + sign + size
  | _ => 0

/-- The digit belongs to a base. -/
def isDigitOf (base : Char) (digit : Char) : Bool :=
  match base with
  | 'b' | 'B' => digit = '0' || digit = '1'
  | 'o' | 'O' => '0' ≤ digit && digit ≤ '7'
  | _ => digit.isDigit || ('a' ≤ digit && digit ≤ 'f') || ('A' ≤ digit && digit ≤ 'F')

/-- The length of the whole number with a marked base at the front, zero if there is none. -/
def markedSize : List Char → Nat
  | '0' :: base :: rest =>
    if base ∈ ['x', 'X', 'o', 'O', 'b', 'B'] then
      match markedDigitsSize (isDigitOf base) rest with
      | 0 => 0
      | size => 2 + size + letterSize 'l' 'L' (rest.drop size)
    else 0
  | _ => 0

/-- The length of the decimal number at the front. -/
def decimalSize (text : List Char) : Nat :=
  let whole := digitsSize false text
  let tail (size : Nat) : Nat :=
    let exponent := exponentSize (text.drop size)
    size + exponent + letterSize 'j' 'J' (text.drop (size + exponent))
  match text.drop whole with
  | '.' :: fraction => tail (whole + 1 + digitsSize false fraction)
  | rest =>
    if exponentSize rest ≠ 0 then tail whole
    else whole + max (letterSize 'l' 'L' rest) (letterSize 'j' 'J' rest)

/-- The length of the number at the front. -/
def numberSize? (text : List Char) : Option Nat :=
  let begins := match text with
    | '.' :: digit :: _ => digit.isDigit
    | digit :: _ => digit.isDigit
    | [] => false
  if begins then some (max (markedSize text) (decimalSize text)) else none

/-! ### Strings -/

/-- How a string is written. -/
structure Quote where
  mark : Char
  /-- The mark is written three times at either end. -/
  triple : Bool
  /-- A backslash stands for itself. -/
  raw : Bool
  /-- The string has replacement fields. -/
  fields : Bool
  deriving DecidableEq, Repr

namespace Quote

/-- The quote that opens a string at the front, and its length with the letters before it. -/
def ofText? (text : List Char) : Option (Quote × Nat) :=
  let letters := text.takeWhile ("uUbBrRfFtT".toList.contains ·)
  let rest := text.drop letters.length
  match rest with
  | mark :: _ =>
    if mark ∈ ['"', '\'', '`'] then
      let triple := [mark, mark, mark].isPrefixOf rest
      some (⟨mark, triple, letters.any ("rR".toList.contains ·),
        letters.any ("fFtT".toList.contains ·)⟩, letters.length + if triple then 3 else 1)
    else none
  | [] => none

/-- The length of the closing quote. -/
def size (quote : Quote) : Nat :=
  if quote.triple then 3 else 1

/-- The closing quote is at the front. -/
def closes (quote : Quote) (text : List Char) : Bool :=
  (List.replicate quote.size quote.mark).isPrefixOf text

/-- Where the text of a string stops. -/
inductive Stop where
  | closed
  | field
  /-- The text or the line ends before the string does, or a closing brace stands alone. -/
  | broken
  deriving DecidableEq, Repr

/-- The number of characters up to the end of a string or its next replacement field. A line feed
breaks a string with single quotes, unless it is the first character after the opening quote, an
escape or a field (`fresh`). Inside the braces of a character name (`named`) nothing is special. -/
def scan (quote : Quote) : Bool → Bool → Nat → List Char → Nat × Stop
  | _, _, count, [] => (count, .broken)
  | _, true, count, character :: rest =>
    scan quote true (character ≠ '}') (count + 1) rest
  | fresh, false, count, '\\' :: '\r' :: '\n' :: rest =>
    scan quote (fresh || !quote.raw) false (count + 3) rest
  | fresh, false, count, '\\' :: next :: rest =>
    if next = '\\' ∨ next = '\n' ∨ next = '"' ∨ next = '\'' ∨ next = quote.mark then
      scan quote (fresh || !quote.raw) false (count + 2) rest
    else if next = 'N' ∧ quote.raw = false ∧ rest.head? = some '{' ∧ rest.contains '}' then
      scan quote true true (count + 2) rest
    else scan quote (fresh || !quote.raw) false (count + 1) (next :: rest)
  | fresh, false, count, character :: rest =>
    if quote.closes (character :: rest) then (count, .closed)
    else if quote.fields ∧ (character = '{' ∨ character = '}') then
      match rest with
      | next :: others =>
        if next = character then scan quote true false (count + 2) others
        else (count, if character = '{' then .field else .broken)
      | [] => (count, .broken)
    else if character = '\n' ∧ quote.triple = false ∧ fresh = false then (count, .broken)
    else scan quote false false (count + 1) rest

end Quote

end SymbolGraph.Python
