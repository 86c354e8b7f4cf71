/-!
# Bytes of a text

`bytes` writes a text in UTF-8, one character after the other. Bytes that come from elsewhere need
not be a text, but `lossy` shows them all the same, with a replacement for what is no character.
-/

set_option autoImplicit false

namespace SymbolGraph.Text

/-- The bytes of a text in UTF-8. -/
def bytes (text : List Char) : List UInt8 :=
  text.flatMap String.utf8EncodeChar

@[simp] theorem bytes_cons (character : Char) (rest : List Char) :
    bytes (character :: rest) = String.utf8EncodeChar character ++ bytes rest :=
  List.flatMap_cons

@[simp] theorem bytes_append (first second : List Char) :
    bytes (first ++ second) = bytes first ++ bytes second :=
  List.flatMap_append

/-! ### Bytes shown as a text -/

/-- What is shown for bytes that are no character. -/
def replacement : Char := '\uFFFD'

/-- The character that bytes begin with. -/
def decodeFirst? (raw : List UInt8) : Option Char :=
  (raw.take 4).toByteArray.utf8DecodeChar? 0

/-- The byte lies in a range. -/
def isWithin (low high byte : UInt8) : Bool :=
  low ≤ byte && byte ≤ high

/-- A character of three or four bytes may begin with the two bytes. Right behind a first byte not
every byte goes on: some would write a character longer than need be, or none at all. -/
def mayBegin (first second : UInt8) : Bool :=
  if first = 0xE0 then isWithin 0xA0 0xBF second
  else if first = 0xED then isWithin 0x80 0x9F second
  else if first = 0xF0 then isWithin 0x90 0xBF second
  else if first = 0xF4 then isWithin 0x80 0x8F second
  else isWithin 0xE1 0xF3 first && isWithin 0x80 0xBF second

/-- How many bytes are given up together where no character begins: as much as a character may begin
with, and at least one byte. -/
def faultLength : List UInt8 → Nat
  | first :: second :: third :: _ =>
    if ¬ mayBegin first second then 1
    else if isWithin 0xF0 0xF4 first && isWithin 0x80 0xBF third then 3
    else 2
  | [first, second] => if mayBegin first second then 2 else 1
  | _ => 1

/-- The text of bytes of which the first few are passed over. -/
def lossyBehind : Nat → List UInt8 → List Char
  | _, [] => []
  | passed + 1, _ :: rest => lossyBehind passed rest
  | 0, first :: rest =>
    match decodeFirst? (first :: rest) with
    | some character => character :: lossyBehind (character.utf8Size - 1) rest
    | none => replacement :: lossyBehind (faultLength (first :: rest) - 1) rest

/-- The text that bytes are shown as. -/
def lossy (raw : List UInt8) : List Char :=
  lossyBehind 0 raw

end SymbolGraph.Text
