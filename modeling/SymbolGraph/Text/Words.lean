import SymbolGraph.Text.Blank

/-!
# One-line texts of bounded size

A text is brought to one line by writing every run of blanks as a single space and dropping the
blanks at either end (`squash`). It is then cut to a number of UTF-8 bytes (`truncate`): from the
limit the search goes back byte by byte to a position between two characters, since a text cannot be
sliced inside a character (`before?`).
-/

set_option autoImplicit false

namespace SymbolGraph.Text

/-- Every run of blanks becomes one space; `inRun` says that the run's space is already written. -/
def collapse : Bool → List Char → List Char
  | _, [] => []
  | inRun, character :: rest =>
    if isBlank character then
      if inRun then collapse true rest else ' ' :: collapse true rest
    else character :: collapse false rest

/-- The text on one line, its words separated by single spaces. -/
def squash (text : String) : String :=
  String.ofList (trim (collapse false text.toList))

/-- The characters before a byte position; there are none to give when the position lies inside a
character or behind the end of the text. -/
def before? : List Char → Nat → Option (List Char)
  | _, 0 => some []
  | [], _ + 1 => none
  | character :: rest, position + 1 =>
    if character.utf8Size ≤ position + 1 then
      (before? rest (position + 1 - character.utf8Size)).map fun front ↦ character :: front
    else none

/-- The first byte position, going back from the given one, that lies between two characters. -/
def boundary (text : List Char) : Nat → Nat
  | 0 => 0
  | position + 1 =>
    if (before? text (position + 1)).isSome then position + 1 else boundary text position

/-- The search for a boundary ends where the text can be sliced. -/
theorem isSome_before?_boundary (text : List Char) (position : Nat) :
    (before? text (boundary text position)).isSome = true := by
  induction position with
  | zero =>
    unfold boundary before?
    rfl
  | succ position ih =>
    unfold boundary
    split
    · assumption
    · exact ih

/-- The text cut to at most `limit` UTF-8 bytes. -/
def truncate (text : String) (limit : Nat) : String :=
  if text.utf8ByteSize ≤ limit then text
  else
    let stop := boundary text.toList (min limit text.utf8ByteSize)
    String.ofList ((before? text.toList stop).get (isSome_before?_boundary _ _))

end SymbolGraph.Text
