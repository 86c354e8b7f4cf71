/-!
# Places in a text

A `Place` counts the UTF-8 bytes and the line feeds before a position. A `Cursor` is a position
together with the text ahead of it; every move keeps the two in step. `slice` is the text between
two byte positions.
-/

set_option autoImplicit false

namespace SymbolGraph.Text

/-- A position in a text. -/
structure Place where
  /-- The UTF-8 bytes before it. -/
  byte : Nat
  /-- The line feeds before it. -/
  row : Nat
  deriving DecidableEq, Repr

namespace Place

/-- The beginning of a text. -/
def origin : Place := ⟨0, 0⟩

/-- The position after a character. -/
def after (place : Place) (character : Char) : Place :=
  ⟨place.byte + character.utf8Size, if character = '\n' then place.row + 1 else place.row⟩

end Place

/-- A position and the text ahead of it. -/
structure Cursor where
  rest : List Char
  place : Place
  deriving Repr

namespace Cursor

/-- The beginning of a text. -/
def ofString (text : String) : Cursor :=
  ⟨text.toList, .origin⟩

/-- One character further, unless the text is at its end. -/
def next (cursor : Cursor) : Cursor :=
  match cursor.rest with
  | [] => cursor
  | character :: rest => ⟨rest, cursor.place.after character⟩

/-- A number of characters further. -/
def drop : Nat → Cursor → Cursor
  | 0, cursor => cursor
  | count + 1, cursor => cursor.next.drop count

/-- Over the longest run of characters with a property. -/
def dropWhile (holds : Char → Bool) (cursor : Cursor) : Cursor :=
  cursor.drop (cursor.rest.takeWhile holds).length

/-- The text ahead begins with the given one. -/
def startsWith (cursor : Cursor) (text : String) : Bool :=
  text.toList.isPrefixOf cursor.rest

/-- The number of characters ahead. -/
def size (cursor : Cursor) : Nat :=
  cursor.rest.length

end Cursor

/-- The text between two byte positions. -/
def slice (text : String) (start stop : Place) : String :=
  String.Pos.Raw.extract text ⟨start.byte⟩ ⟨stop.byte⟩

end SymbolGraph.Text
