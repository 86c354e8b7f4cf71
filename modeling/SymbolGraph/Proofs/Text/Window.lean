import Mathlib.Data.List.DropRight
import SymbolGraph.Proofs.Text.Lines

/-!
# Windows of numbered lines

The lines of a text are numbered in ascending order (`pairwise_numbered`). So skipping the numbers
before a window and stopping at the first one behind it keeps just the numbers inside
(`takeWhile_eq_filter`, `dropWhile_eq_filter`, `contextLines_eq`), and a window has each line whose
number lies in it, once and in order (`contextLines_window`).
-/

set_option autoImplicit false
set_option relaxedAutoImplicit false

namespace SymbolGraph.Text

/-- Trimming takes blanks away from the end as long as there are any. -/
theorem trimEnd_eq (text : List Char) : trimEnd text = text.rdropWhile isBlank := by
  induction text with
  | nil => rfl
  | cons character rest ih =>
    rw [trimEnd, ih, List.rdropWhile, List.rdropWhile, List.reverse_cons, List.dropWhile_append]
    split
    · rename_i hnone
      rw [List.reverse_eq_nil_iff.mp hnone, List.isEmpty_nil, if_pos rfl, List.dropWhile_cons]
      cases isBlank character with
      | true => rfl
      | false => rfl
    · rename_i hkept
      rw [if_neg (by simpa using hkept), List.reverse_append, List.reverse_singleton,
        List.singleton_append]

/-! ### Tests that fail from some entry on -/

section Tests

variable {α : Type} {list : List α} {test : α → Bool}

theorem takeWhile_eq_filter
    (hlist : list.Pairwise fun first second ↦ test second = true → test first = true) :
    list.takeWhile test = list.filter test := by
  induction list with
  | nil => rfl
  | cons first others ih =>
    obtain ⟨hfirst, hothers⟩ := List.pairwise_cons.mp hlist
    by_cases htest : test first = true
    · rw [List.takeWhile_cons_of_pos htest, List.filter_cons_of_pos htest, ih hothers]
    · have hnone : others.filter test = [] :=
        List.filter_eq_nil_iff.mpr fun other hother hpass ↦ htest (hfirst other hother hpass)
      rw [List.takeWhile_cons_of_neg htest, List.filter_cons_of_neg htest, hnone]

theorem dropWhile_eq_filter
    (hlist : list.Pairwise fun first second ↦ test second = true → test first = true) :
    list.dropWhile test = list.filter fun entry ↦ !test entry := by
  induction list with
  | nil => rfl
  | cons first others ih =>
    obtain ⟨hfirst, hothers⟩ := List.pairwise_cons.mp hlist
    by_cases htest : test first = true
    · rw [List.dropWhile_cons_of_pos htest, List.filter_cons_of_neg (by simp [htest]), ih hothers]
    · have hall : others.filter (fun entry ↦ !test entry) = others := by
        refine List.filter_eq_self.mpr fun other hother ↦ ?_
        rw [Bool.not_eq_true', Bool.eq_false_iff]
        exact fun hpass ↦ htest (hfirst other hother hpass)
      rw [List.dropWhile_cons_of_neg htest, List.filter_cons_of_pos (by simpa using htest), hall]

end Tests

/-! ### Numbered lines -/

section Numbered

variable {text line : List Char} {number : Int}

/-- The lines of a text with their numbers, counting from one. -/
def numbered (text : List Char) : List (Int × List Char) :=
  (lines text).zipIdx.map fun (line, index) ↦ ((index : Int) + 1, line)

theorem mem_numbered_iff : (number, line) ∈ numbered text ↔
    ∃ index : Nat, (lines text)[index]? = some line ∧ number = index + 1 := by
  rw [numbered, List.mem_map]
  constructor
  · rintro ⟨⟨entry, index⟩, hentry, heq⟩
    obtain ⟨rfl, rfl⟩ := Prod.mk.inj heq
    exact ⟨index, List.mk_mem_zipIdx_iff_getElem?.mp hentry, rfl⟩
  · rintro ⟨index, hline, rfl⟩
    exact ⟨(line, index), List.mk_mem_zipIdx_iff_getElem?.mpr hline, rfl⟩

theorem pairwise_numbered (text : List Char) :
    (numbered text).Pairwise fun first second ↦ first.1 < second.1 := by
  have hplaces : ((lines text).zipIdx.map Prod.snd).Pairwise (· < ·) := by
    rw [List.zipIdx_map_snd]
    exact List.pairwise_lt_range'
  rw [numbered, List.pairwise_map]
  exact (List.pairwise_map.mp hplaces).imp fun hlt ↦ Int.add_lt_add_right (Int.ofNat_lt.mpr hlt) 1

end Numbered

/-! ### Windows -/

section Windows

variable (content : String) (line radius : Int)

/-- A window keeps the lines whose numbers lie in it. -/
theorem contextLines_eq : contextLines content line radius =
    ((numbered content.toList).filter fun entry ↦
        line - radius ≤ entry.1 ∧ entry.1 ≤ line + radius).map
      fun (number, text) ↦ (number, String.ofList (trimEnd text)) := by
  have hnumbers := pairwise_numbered content.toList
  have hstart : (numbered content.toList).Pairwise fun first second ↦
      decide (second.1 < max 1 (line - radius)) = true →
        decide (first.1 < max 1 (line - radius)) = true :=
    hnumbers.imp fun hlt hsecond ↦
      decide_eq_true (Int.lt_trans hlt (of_decide_eq_true hsecond))
  have hstop : (numbered content.toList).Pairwise fun first second ↦
      decide (second.1 ≤ line + radius) = true → decide (first.1 ≤ line + radius) = true :=
    hnumbers.imp fun hlt hsecond ↦
      decide_eq_true (Int.le_trans (Int.le_of_lt hlt) (of_decide_eq_true hsecond))
  unfold contextLines
  change (((numbered content.toList).dropWhile _).takeWhile _).map _ = _
  rw [dropWhile_eq_filter hstart, takeWhile_eq_filter (hstop.filter _), List.filter_filter]
  refine congrArg _ (List.filter_congr fun entry hentry ↦ ?_)
  -- Numbers start at one, so the clamp of the window's start loses none.
  obtain ⟨index, -, hnumber⟩ := mem_numbered_iff.mp hentry
  rw [← decide_not, ← Bool.decide_and, decide_eq_decide]
  omega

/-- A window is exact. Its content has a line for each part that a line feed ends, and for what
follows the last line feed unless this is empty. The window has a number and a text exactly when the
number lies within the radius and the text is the line of that number without the blanks at its end,
counting lines from one; its numbers ascend, so that each line is there once. -/
theorem contextLines_window :
    lines content.toList = linesOf (content.toList.splitOn '\n') ∧
    (∀ number text, (number, text) ∈ contextLines content line radius ↔
      ∃ (index : Nat) (hindex : index < (lines content.toList).length),
        number = index + 1 ∧ line - radius ≤ number ∧ number ≤ line + radius ∧
          text = String.ofList ((lines content.toList)[index].rdropWhile isBlank)) ∧
    ((contextLines content line radius).map Prod.fst).Pairwise (· < ·) := by
  refine ⟨lines_eq _, fun number text ↦ ?_, ?_⟩
  · rw [contextLines_eq, List.mem_map]
    constructor
    · rintro ⟨⟨shown, characters⟩, hentry, heq⟩
      obtain ⟨rfl, rfl⟩ := Prod.mk.inj heq
      obtain ⟨hmem, hwindow⟩ := List.mem_filter.mp hentry
      obtain ⟨hstart, hstop⟩ := of_decide_eq_true hwindow
      obtain ⟨index, hline, hnumber⟩ := mem_numbered_iff.mp hmem
      obtain ⟨hindex, rfl⟩ := List.getElem?_eq_some_iff.mp hline
      exact ⟨index, hindex, hnumber, hstart, hstop, congrArg String.ofList (trimEnd_eq _)⟩
    · rintro ⟨index, hindex, hnumber, hstart, hstop, rfl⟩
      have hmem : (number, (lines content.toList)[index]) ∈ numbered content.toList :=
        mem_numbered_iff.mpr ⟨index, List.getElem?_eq_getElem hindex, hnumber⟩
      refine ⟨_, List.mem_filter.mpr ⟨hmem, decide_eq_true ⟨hstart, hstop⟩⟩, ?_⟩
      exact Prod.ext rfl (congrArg String.ofList (trimEnd_eq _))
  · rw [contextLines_eq, List.map_map, List.pairwise_map]
    exact (pairwise_numbered content.toList).filter _

/-- Carriage returns before line feeds belong to no line, and a window may begin before the first
one. -/
example : contextLines "one\r\ntwo \n\nfour" 0 2 = [(1, "one"), (2, "two")] := by decide

end Windows

end SymbolGraph.Text
