/-!
# Decimal numbers of a fixed width

A number is written in decimal digits, at least one of them. `unsigned?` reads it with at most one
leading `+`, `signed?` with at most one leading sign; a value that the given number of bits cannot
hold is refused.
-/

set_option autoImplicit false

namespace SymbolGraph.Text

/-- The value of decimal digits, the first the most significant. -/
def digitsValue (digits : List Char) : Nat :=
  digits.foldl (fun value digit ↦ 10 * value + (digit.toNat - '0'.toNat)) 0

/-- The value of a text of decimal digits. -/
def decimal? (text : List Char) : Option Nat :=
  if !text.isEmpty && text.all Char.isDigit then some (digitsValue text) else none

/-- An unsigned number of so many bits. -/
def unsigned? (bits : Nat) (text : List Char) : Option Nat :=
  let value := match text with
    | '+' :: digits => decimal? digits
    | digits => decimal? digits
  value.filter fun number ↦ number < Nat.pow 2 bits

/-- A signed number of so many bits, one of them for the sign. -/
def signed? (bits : Nat) (text : List Char) : Option Int :=
  let value : Option Int := match text with
    | '-' :: digits => (decimal? digits).map fun size ↦ -(size : Int)
    | '+' :: digits => (decimal? digits).map fun size ↦ (size : Int)
    | digits => (decimal? digits).map fun size ↦ (size : Int)
  let limit : Int := Nat.pow 2 (bits - 1)
  value.filter fun number ↦ -limit ≤ number ∧ number < limit

end SymbolGraph.Text
