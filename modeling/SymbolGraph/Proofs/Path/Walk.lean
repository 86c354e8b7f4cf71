import SymbolGraph.Proofs.Path.Canonical

/-!
# Walks that climb and go down

A relative path that first climbs some directories and then goes down along entries leads from a
directory to a place that is known beforehand: what is left of the directory when as many of its
last segments are taken away, with the entries below it (`join?_of_segments`). There is none when
the climb leaves the repository. How the path is spelled does not matter, since empty segments and
`.` stay where they are (`walk_split`).
-/

set_option autoImplicit false
set_option relaxedAutoImplicit false

namespace SymbolGraph.Path

/-- A relative path that climbs some directories before it goes on. -/
def climb : Nat → String → String
  | 0, below => below
  | count + 1, below => "../" ++ climb count below

theorem segments_climb (count : Nat) (below : String) :
    segments (climb count below) = List.replicate count ".." ++ segments below := by
  induction count with
  | zero => rfl
  | succ count ih =>
    have hup : segments ".." = [".."] := by decide
    rw [climb, show "../" = ".." ++ "/" from rfl, segments_append, ih, hup, List.replicate_succ]
    rfl

/-! ### Walks -/

section Walks

variable {names : List String}

theorem walk_append (place first second : List String) :
    walk place (first ++ second) = (walk place first).bind fun next ↦ walk next second := by
  induction first generalizing place with
  | nil => rfl
  | cons segment rest ih =>
    rw [List.cons_append, walk, walk, Option.bind_assoc]
    exact congrArg _ (funext fun next ↦ ih next)

/-- Empty segments and `.` stay where they are. -/
theorem walk_split (place : List String) (relative : String) :
    walk place (Text.split '/' relative) = walk place (segments relative) := by
  unfold segments
  induction Text.split '/' relative generalizing place with
  | nil => rfl
  | cons piece rest ih =>
    by_cases hkept : piece ≠ "" ∧ piece ≠ "."
    · rw [List.filter_cons, if_pos (decide_eq_true hkept), walk, walk]
      exact congrArg _ (funext fun next ↦ ih next)
    · rw [List.filter_cons, if_neg (mt of_decide_eq_true hkept), walk, ← ih]
      rcases not_and_or.mp hkept with hempty | hhere
      · rw [not_not.mp hempty]
        rfl
      · rw [not_not.mp hhere]
        rfl

/-- Climbing takes away the innermost segments, when there are as many. -/
theorem walk_replicate_up (place : List String) (count : Nat) :
    walk place (List.replicate count "..") =
      if place.length < count then none else some (place.drop count) := by
  induction count generalizing place with
  | zero => rfl
  | succ count ih =>
    rw [List.replicate_succ, walk]
    cases place with
    | nil => rfl
    | cons inner outer =>
      have hup : step (inner :: outer) ".." = some outer := rfl
      rw [hup, Option.bind_some, ih, List.drop_succ_cons, List.length_cons]
      exact if_congr (by omega) rfl rfl

theorem step_of_isName {name : String} (hname : IsName name) (place : List String) :
    step place name = some (name :: place) := by
  unfold step
  split
  · exact absurd rfl hname.ne_empty
  · exact absurd rfl hname.ne_here
  · exact absurd rfl hname.ne_up
  · rfl

/-- Going down puts the entries inside the place. -/
theorem walk_of_isEntry (hnames : ∀ name ∈ names, IsEntry name) (place : List String) :
    walk place names = some (names.reverse ++ place) := by
  induction names generalizing place with
  | nil => rfl
  | cons name rest ih =>
    obtain ⟨hname, hrest⟩ := List.forall_mem_cons.mp hnames
    rw [walk, step_of_isName hname.toIsName, Option.bind_some, ih hrest, List.reverse_cons,
      List.append_assoc]
    rfl

/-- The place that a walk reaches is written from the root of the repository. -/
theorem join?_eq (base relative : String) :
    join? base relative = (walk (segments base).reverse (segments relative)).bind fun place ↦
      Text.joined? "/" place.reverse := by
  unfold join?
  rw [walk_split]
  cases walk (segments base).reverse (segments relative) with
  | none => rfl
  | some place =>
    cases place with
    | nil => rfl
    | cons inner outer =>
      rw [Option.bind_some, Text.joined?_of_ne_nil (by simp)]

/-- A path that climbs and then goes down along entries leads to these entries in what is left of
the directory. -/
theorem join?_of_segments {base relative : String} {count : Nat}
    (hrelative : segments relative = List.replicate count ".." ++ names)
    (hnames : ∀ name ∈ names, IsEntry name) :
    join? base relative = if (segments base).length < count then none
      else Text.joined? "/" ((segments base).take ((segments base).length - count) ++ names) := by
  rw [join?_eq, hrelative, walk_append, walk_replicate_up, List.length_reverse]
  by_cases hleaves : (segments base).length < count
  · rw [if_pos hleaves, if_pos hleaves]
    rfl
  · rw [if_neg hleaves, if_neg hleaves, Option.bind_some, walk_of_isEntry hnames, Option.bind_some,
      List.reverse_append, List.reverse_reverse, List.reverse_drop, List.reverse_reverse]
    simp

end Walks

end SymbolGraph.Path
