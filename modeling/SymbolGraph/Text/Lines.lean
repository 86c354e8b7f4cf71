import SymbolGraph.Text.Blank

/-!
# Lines of a text

A line ends at a line feed, and a carriage return just before that line feed belongs to the ending.
A text that ends with a line feed has no empty last line; a carriage return at the very end of the
text, with no line feed after it, stays in its line. `contextLines` is the window of numbered lines
around a line, each without trailing blanks.
-/

set_option autoImplicit false

namespace SymbolGraph.Text

/-- The lines of a text, without their endings. -/
def lines : List Char → List (List Char)
  | [] => []
  | '\n' :: rest => [] :: lines rest
  | '\r' :: '\n' :: rest => [] :: lines rest
  | character :: rest =>
    match lines rest with
    | [] => [[character]]
    | line :: others => (character :: line) :: others

/-- The number of lines, where an empty text counts as one line. -/
def lineCount (text : List Char) : Nat :=
  max 1 (lines text).length

/-- The lines numbered from `line - radius` to `line + radius`, counting from one. -/
def contextLines (content : String) (line radius : Int) : List (Int × String) :=
  let numbered := (lines content.toList).zipIdx.map fun (text, index) ↦ ((index : Int) + 1, text)
  let window := (numbered.dropWhile fun entry ↦ entry.1 < max 1 (line - radius)).takeWhile
    fun entry ↦ entry.1 ≤ line + radius
  window.map fun (number, text) ↦ (number, String.ofList (trimEnd text))

end SymbolGraph.Text
