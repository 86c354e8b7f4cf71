import SymbolGraph.Text.Cursor

/-!
# Python tokens

A program is a list of tokens. The end of a logical line is a token of no width that carries the
`Layout` ahead of it: how far the next line of code is indented, and the comments on lines of their
own before it. A string with replacement fields is not one token but a sequence: its start, for
every field the tokens between the field's braces, and its end.
-/

set_option autoImplicit false

namespace SymbolGraph.Python

open Text (Place)

/-- A comment on a line of its own. -/
structure LooseComment where
  indent : Nat
  stop : Place
  deriving DecidableEq, Repr

/-- What lies between a line of code and the next one. -/
structure Layout where
  /-- The indentation of the next line of code, zero at the end of the program. -/
  indent : Nat
  comments : List LooseComment
  deriving DecidableEq, Repr

/-- The kinds of tokens. -/
inductive TokenKind where
  /-- An identifier or a keyword. -/
  | name (text : String)
  | number
  /-- A string without replacement fields. -/
  | string
  | formatStart
  | formatEnd
  | fieldStart
  | fieldEnd
  /-- The conversion of a replacement field, such as `!r`. -/
  | conversion
  /-- The beginning of a replacement field's format. -/
  | format
  | symbol (text : String)
  | newline (ahead : Layout)
  /-- A character that begins no token, or a string that is not closed. -/
  | invalid
  deriving DecidableEq, Repr

/-- A token and where it stands. -/
structure Token where
  kind : TokenKind
  start : Place
  stop : Place
  deriving DecidableEq, Repr

end SymbolGraph.Python
