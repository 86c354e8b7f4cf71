/-!
# Splitting at a separator

`pieces separator` cuts a list at every occurrence of one of its letters, so that `n` separators
give `n + 1` pieces, some of them empty; `split` cuts a string so. `cutFirst` and `cutLast` cut
once.
-/

set_option autoImplicit false

namespace SymbolGraph.Text

/-- The pieces between the separators; what has no separator is its own only piece. The letters are
characters or bytes. -/
def pieces {Letter : Type} [DecidableEq Letter] (separator : Letter) :
    List Letter → List (List Letter)
  | [] => [[]]
  | first :: rest =>
    if first = separator then [] :: pieces separator rest
    else
      match pieces separator rest with
      | [] => [[first]]
      | piece :: others => (first :: piece) :: others

/-- The pieces of a text between the separators. -/
def split (separator : Char) (text : String) : List String :=
  (pieces separator text.toList).map String.ofList

/-- The texts before and after the first separator. -/
def cutFirst (separator : Char) : List Char → Option (List Char × List Char)
  | [] => none
  | character :: rest =>
    if character = separator then some ([], rest)
    else (cutFirst separator rest).map fun (before, after) ↦ (character :: before, after)

/-- The texts before and after the last separator. -/
def cutLast (separator : Char) : List Char → Option (List Char × List Char)
  | [] => none
  | character :: rest =>
    match cutLast separator rest with
    | some (before, after) => some (character :: before, after)
    | none => if character = separator then some ([], rest) else none

/-- The texts before and after the first separator of a string. -/
def splitFirst? (separator : Char) (text : String) : Option (String × String) :=
  (cutFirst separator text.toList).map fun (before, after) ↦
    (String.ofList before, String.ofList after)

/-- The texts before and after the last separator of a string. -/
def splitLast? (separator : Char) (text : String) : Option (String × String) :=
  (cutLast separator text.toList).map fun (before, after) ↦
    (String.ofList before, String.ofList after)

/-- The pieces with the separator between each two. -/
def join (separator : String) (texts : List String) : String :=
  separator.intercalate texts

end SymbolGraph.Text
