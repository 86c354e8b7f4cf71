import SymbolGraph.Text.Ranges

/-!
# Blank characters

`isBlank` is the Unicode property White_Space: 25 characters, the same in every version of the
standard since 6.3. Texts are trimmed of blanks at either end (`trimStart`, `trimEnd`, `trim`).
-/

set_option autoImplicit false

namespace SymbolGraph.Text

/-- Code points with the property White_Space. -/
def blankRanges : Ranges :=
  [(0x09, 0x0D), (0x20, 0x20), (0x85, 0x85), (0xA0, 0xA0), (0x1680, 0x1680), (0x2000, 0x200A),
   (0x2028, 0x2029), (0x202F, 0x202F), (0x205F, 0x205F), (0x3000, 0x3000)]

-- The table is well formed, and White_Space has 25 characters.
example : blankRanges.isAscending = true ∧ blankRanges.size = 25 := by decide

/-- A white space character. -/
def isBlank (character : Char) : Bool :=
  blankRanges.holds character.toNat

/-- A blank between the tokens of a program: white space, and the marks of width zero. -/
def isSpacing (character : Char) : Bool :=
  isBlank character || character = '\uFEFF' || character = '\u2060' || character = '\u200B'

/-- The text without the blanks it begins with. -/
def trimStart (characters : List Char) : List Char :=
  characters.dropWhile isBlank

/-- The text without the blanks it ends with. -/
def trimEnd : List Char → List Char
  | [] => []
  | character :: rest =>
    match trimEnd rest with
    | [] => if isBlank character then [] else [character]
    | kept => character :: kept

/-- The text without the blanks at either end. -/
def trim (characters : List Char) : List Char :=
  trimEnd (trimStart characters)

end SymbolGraph.Text
