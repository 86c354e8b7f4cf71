/-!
# Ranges of code points

A class of characters is written as a list of closed ranges of code points, ascending and apart.
`Ranges.holds` looks a code point up; `Ranges.isAscending` is the check that a table is well formed.
The tables themselves are named for the property they hold: blanks, alphanumeric characters,
identifier characters.
-/

set_option autoImplicit false

namespace SymbolGraph.Text

/-- Closed ranges of code points. -/
abbrev Ranges := List (Nat × Nat)

namespace Ranges

/-- The code point lies in one of the ranges. -/
def holds (ranges : Ranges) (point : Nat) : Bool :=
  ranges.any fun range ↦ range.1 ≤ point && point ≤ range.2

/-- Every range is non-empty and ends before the next one begins, with a gap between them. -/
def isAscending : Ranges → Bool
  | [] => true
  | [range] => range.1 ≤ range.2
  | range :: next :: rest => range.1 ≤ range.2 && range.2 + 1 < next.1 && isAscending (next :: rest)

/-- How many code points the ranges hold, when they are ascending. -/
def size : Ranges → Nat
  | [] => 0
  | range :: rest => (range.2 + 1 - range.1) + size rest

end Ranges

end SymbolGraph.Text
