/-!
# Reports as JSON

`Json` is the value of a report: nothing, a truth value, an integer, a text, a list, or named fields
in the order they are written. `render` writes it over several lines, two spaces deeper for every
level, one element or field a line; an empty list or object stays on its line.
-/

set_option autoImplicit false

namespace SymbolGraph

/-- The value of a report. -/
inductive Json where
  | null
  | bool (value : Bool)
  | number (value : Int)
  | text (value : String)
  | list (elements : List Json)
  | object (fields : List (String × Json))
  deriving Inhabited

namespace Json

/-- The value of an optional entry, which is null when it is absent. -/
def optional {α : Type} (encode : α → Json) : Option α → Json
  | none => .null
  | some value => encode value

/-- A count as a number. -/
def count (value : Nat) : Json :=
  .number value

/-- The fields of an entry that is left out when it is absent. -/
def present {α : Type} (name : String) (encode : α → Json) : Option α → List (String × Json)
  | none => []
  | some value => [(name, encode value)]

/-- A hexadecimal digit in lower case. -/
def hexDigit (value : Nat) : Char :=
  if value < 10 then Char.ofNat (48 + value) else Char.ofNat (87 + value)

/-- How a character is written inside a quoted text: quotes, backslashes and control characters are
escaped, all others stand for themselves. -/
def escape (character : Char) : List Char :=
  if character = '"' then ['\\', '"']
  else if character = '\\' then ['\\', '\\']
  else if character = '\n' then ['\\', 'n']
  else if character = '\r' then ['\\', 'r']
  else if character = '\t' then ['\\', 't']
  else if character.toNat = 8 then ['\\', 'b']
  else if character.toNat = 12 then ['\\', 'f']
  else if character.toNat < 32 then
    ['\\', 'u', '0', '0', hexDigit (character.toNat / 16), hexDigit (character.toNat % 16)]
  else [character]

/-- A text between quotes. -/
def quoted (text : String) : String :=
  String.ofList ('"' :: (text.toList.flatMap escape ++ ['"']))

/-- The blanks at the start of a line of the given depth. -/
def indentation (depth : Nat) : String :=
  String.ofList (List.replicate (2 * depth) ' ')

/-- The written items between brackets, one a line. -/
def block (opening closing : String) (depth : Nat) (items : List String) : String :=
  match items with
  | [] => opening ++ closing
  | _ =>
    let separator := ",\n" ++ indentation (depth + 1)
    opening ++ "\n" ++ indentation (depth + 1) ++ separator.intercalate items ++ "\n" ++
      indentation depth ++ closing

mutual

/-- A value written at a depth, its first line not indented. -/
def renderAt (depth : Nat) : Json → String
  | .null => "null"
  | .bool true => "true"
  | .bool false => "false"
  | .number value => toString value
  | .text value => quoted value
  | .list elements => block "[" "]" depth (renderElements (depth + 1) elements)
  | .object fields => block "\x7b" "\x7d" depth (renderFields (depth + 1) fields)

/-- The written elements of a list. -/
def renderElements (depth : Nat) : List Json → List String
  | [] => []
  | element :: rest => renderAt depth element :: renderElements depth rest

/-- The written fields of an object. -/
def renderFields (depth : Nat) : List (String × Json) → List String
  | [] => []
  | (name, value) :: rest => (quoted name ++ ": " ++ renderAt depth value) ::
      renderFields depth rest

end

/-- The report as text, without a final line break. -/
def render (value : Json) : String :=
  renderAt 0 value

end Json

end SymbolGraph
