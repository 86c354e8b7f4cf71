/-!
# Patterns over a text

A `Pattern α` describes stretches of a text whose letters are of type `α`: characters for the
patterns of symbol names, bytes for those of file paths. `Pattern.ends` computes where a stretch
that begins at a position may end; repetition is the set of positions reachable by repeated
stretches, which the length of the text bounds. A pattern either has to cover a whole text
(`matchesWhole`) or may be found anywhere in it (`occursIn`).
-/

set_option autoImplicit false

namespace SymbolGraph

/-- A description of stretches of text. -/
inductive Pattern (α : Type) where
  /-- The empty stretch. -/
  | empty
  /-- One letter of a class. -/
  | letter (accepts : α → Bool)
  /-- The empty stretch, between a letter before and a letter after that satisfy a condition. -/
  | boundary (holds : Option α → Option α → Bool)
  | sequence (first second : Pattern α)
  | either (left right : Pattern α)
  /-- Any number of stretches, none included. -/
  | many (body : Pattern α)

namespace Pattern

/-- A place in a text: the letter before it, and all letters after it. -/
structure Position (α : Type) where
  before : Option α
  after : List α

/-- The beginning of a text. -/
def Position.start {α : Type} (text : List α) : Position α where
  before := none
  after := text

/-- The places that are not yet among those seen; a place in a given text is known by how much of
the text is left. -/
def newcomers {α : Type} (seen : List (Position α)) : List (Position α) → List (Position α)
  | [] => []
  | place :: rest =>
    if seen.any fun other ↦ other.after.length == place.after.length then newcomers seen rest
    else place :: newcomers (place :: seen) rest

/-- The places reachable from those seen by at most `rounds` steps. -/
def closure {α : Type} (step : Position α → List (Position α)) :
    Nat → List (Position α) → List (Position α) → List (Position α)
  | 0, _, seen => seen
  | rounds + 1, frontier, seen =>
    match newcomers seen (frontier.flatMap step) with
    | [] => seen
    | fresh => closure step rounds fresh (seen ++ fresh)

/-- Where a stretch that begins at a place may end. -/
def ends {α : Type} : Pattern α → Position α → List (Position α)
  | .empty, place => [place]
  | .letter accepts, place =>
    match place.after with
    | [] => []
    | head :: rest => if accepts head then [⟨some head, rest⟩] else []
  | .boundary holds, place => if holds place.before place.after.head? then [place] else []
  | .sequence first second, place => newcomers [] ((ends first place).flatMap (ends second))
  | .either left right, place => newcomers [] (ends left place ++ ends right place)
  | .many body, place => closure (ends body) (place.after.length + 1) [place] [place]

/-- The stretches of several patterns, one after the other. -/
def sequenceOf {α : Type} (patterns : List (Pattern α)) : Pattern α :=
  patterns.foldr sequence empty

/-- The stretches of any of several patterns. -/
def eitherOf {α : Type} : List (Pattern α) → Pattern α
  | [] => .letter fun _ ↦ false
  | [pattern] => pattern
  | pattern :: others => .either pattern (eitherOf others)

/-- At most one stretch. -/
def optional {α : Type} (body : Pattern α) : Pattern α :=
  .either body .empty

/-- At least `least` stretches, and at most `most` when a bound is given. -/
def repeated {α : Type} (body : Pattern α) (least : Nat) (most : Option Nat) : Pattern α :=
  let required := sequenceOf (List.replicate least body)
  match most with
  | none => .sequence required (.many body)
  | some bound =>
    let further := Nat.repeat (fun tail ↦ optional (.sequence body tail)) (bound - least) .empty
    .sequence required further

/-- One given letter. -/
def exactly {α : Type} [BEq α] (wanted : α) : Pattern α :=
  .letter fun head ↦ head == wanted

/-- The pattern covers the text. -/
def matchesWhole {α : Type} (pattern : Pattern α) (text : List α) : Bool :=
  (pattern.ends (.start text)).any fun place ↦ place.after.isEmpty

/-- A stretch begins at the place or at a later one. -/
def occursFrom {α : Type} (pattern : Pattern α) (before : Option α) : List α → Bool
  | [] => !(pattern.ends ⟨before, []⟩).isEmpty
  | head :: rest =>
    !(pattern.ends ⟨before, head :: rest⟩).isEmpty || pattern.occursFrom (some head) rest

/-- The pattern has a stretch somewhere in the text. -/
def occursIn {α : Type} (pattern : Pattern α) (text : List α) : Bool :=
  pattern.occursFrom none text

end Pattern

end SymbolGraph
