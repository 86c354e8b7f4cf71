import SymbolGraph.Proofs.Text.Split
import SymbolGraph.Text.Lines

/-!
# Lines and line feeds

A text has a line for every line feed, and one more for what stands behind the last of them
(`length_lines_cons`). So the line feeds before a character that is none are fewer than the lines
(`count_lt_lineCount`). The lines themselves are the parts between the line feeds, where a carriage
return belongs to the line feed that it comes before and an empty part at the end is no line
(`lines_eq`).
-/

set_option autoImplicit false
set_option relaxedAutoImplicit false

namespace SymbolGraph.Text

variable {front : List Char}

/-- A line feed adds a line; any other character is in the line that follows it, if there is one. -/
theorem length_lines_cons (character : Char) (rest : List Char) :
    (lines (character :: rest)).length =
      if character = '\n' then (lines rest).length + 1 else max 1 (lines rest).length := by
  rw [lines.eq_def (character :: rest)]
  split
  · rename_i heq
    cases heq
  · rename_i heq
    obtain ⟨rfl, rfl⟩ := List.cons.inj heq
    rw [if_pos rfl, List.length_cons]
  · rename_i heq
    obtain ⟨rfl, rfl⟩ := List.cons.inj heq
    rw [if_neg (by simp), lines, List.length_cons]
    exact (Nat.max_eq_right (Nat.succ_pos _)).symm
  · rename_i hother _ heq
    obtain ⟨rfl, rfl⟩ := List.cons.inj heq
    rw [if_neg hother]
    cases lines rest with
    | nil => rfl
    | cons line others => exact (Nat.max_eq_right (Nat.succ_pos _)).symm

/-- What ends with another character than a line feed is in more lines than it has line feeds. -/
theorem count_lt_length_lines (hne : front ≠ []) (hlast : front.getLast? ≠ some '\n')
    (rest : List Char) : front.count '\n' < (lines (front ++ rest)).length := by
  induction front with
  | nil => exact absurd rfl hne
  | cons character others ih =>
    rw [List.cons_append, length_lines_cons, List.count_cons]
    by_cases hothers : others = []
    · subst hothers
      have hother : character ≠ '\n' := fun hfeed ↦ hlast (congrArg some hfeed)
      simp only [List.count_nil, beq_iff_eq, hother, if_false]
      exact Nat.lt_of_lt_of_le Nat.zero_lt_one (Nat.le_max_left _ _)
    · rw [List.getLast?_cons_of_ne_nil hothers] at hlast
      have hfew := ih hothers hlast
      by_cases hfeed : character = '\n'
      · simpa [hfeed] using hfew
      · simp only [beq_iff_eq, hfeed, if_false]
        exact Nat.lt_of_lt_of_le hfew (Nat.le_max_right _ _)

theorem count_lt_lineCount (hlast : front.getLast? ≠ some '\n') (rest : List Char) :
    front.count '\n' < lineCount (front ++ rest) := by
  by_cases hne : front = []
  · rw [hne, List.count_nil]
    exact Nat.lt_of_lt_of_le Nat.zero_lt_one (Nat.le_max_left _ _)
  · exact Nat.lt_of_lt_of_le (count_lt_length_lines hne hlast rest) (Nat.le_max_right _ _)

/-! ### Lines between line feeds -/

section Feeds

variable {character : Char} {part rest text : List Char} {parts : List (List Char)}

/-- The text that a line feed ends, without a carriage return just before the line feed. -/
def withoutReturn (part : List Char) : List Char :=
  if part.getLast? = some '\r' then part.dropLast else part

/-- The lines of a text that its line feeds cut into parts: each line feed ends a line, and what
stands behind the last of them is a line when it is not empty. -/
def linesOf (parts : List (List Char)) : List (List Char) :=
  parts.dropLast.map withoutReturn ++ parts.getLast?.toList.filter (· ≠ [])

theorem withoutReturn_cons (hkept : part = [] → character ≠ '\r') :
    withoutReturn (character :: part) = character :: withoutReturn part := by
  unfold withoutReturn
  by_cases hpart : part = []
  · subst hpart
    rw [List.getLast?_singleton, if_neg fun hreturn ↦ hkept rfl (Option.some.inj hreturn)]
    rfl
  · rw [List.getLast?_cons_of_ne_nil hpart, List.dropLast_cons_of_ne_nil hpart]
    exact (apply_ite (character :: ·) _ _ _).symm

/-- A character that ends no line is in the first line of what follows it. -/
theorem lines_cons (hfeed : character ≠ '\n')
    (hreturn : character = '\r' → rest.head? ≠ some '\n') :
    lines (character :: rest) = (character :: (lines rest).headD []) :: (lines rest).tail := by
  rw [lines.eq_def (character :: rest)]
  split
  · rename_i heq
    cases heq
  · rename_i heq
    exact absurd (List.cons.inj heq).1 hfeed
  · rename_i heq
    obtain ⟨hsame, rfl⟩ := List.cons.inj heq
    exact absurd rfl (hreturn hsame)
  · rename_i heq
    obtain ⟨rfl, rfl⟩ := List.cons.inj heq
    cases lines rest with
    | nil => rfl
    | cons line others => rfl

/-- A line feed ends a line. -/
theorem lines_append_feed (hpart : '\n' ∉ part) (rest : List Char) :
    lines (part ++ '\n' :: rest) = withoutReturn part :: lines rest := by
  induction part with
  | nil => rfl
  | cons character others ih =>
    obtain ⟨hfeed, hothers⟩ := not_or.mp (mt List.mem_cons.mpr hpart)
    by_cases hreturn : others = [] ∧ character = '\r'
    · obtain ⟨rfl, rfl⟩ := hreturn
      rfl
    · have hhead : character = '\r' → (others ++ '\n' :: rest).head? ≠ some '\n' := by
        intro hsame hfirst
        cases others with
        | nil => exact hreturn ⟨rfl, hsame⟩
        | cons second later =>
          exact hothers (Option.some.inj hfirst ▸ List.mem_cons_self)
      rw [List.cons_append, lines_cons (Ne.symm hfeed) hhead, ih hothers,
        withoutReturn_cons fun hnone hsame ↦ hreturn ⟨hnone, hsame⟩]
      rfl

/-- Parts without line breaks that line feeds end are the lines. -/
theorem lines_flatMap_feed (hparts : ∀ part ∈ parts, '\n' ∉ part ∧ '\r' ∉ part) :
    lines (parts.flatMap (· ++ ['\n'])) = parts := by
  induction parts with
  | nil => rfl
  | cons part others ih =>
    obtain ⟨⟨hfeed, hreturn⟩, hothers⟩ := List.forall_mem_cons.mp hparts
    have hkept : withoutReturn part = part :=
      if_neg fun hlast ↦ hreturn (List.mem_of_getLast? hlast)
    rw [List.flatMap_cons, List.append_assoc, List.singleton_append, lines_append_feed hfeed, hkept,
      ih hothers]

/-- A text without line feeds is a line, unless it is empty. -/
theorem lines_of_not_mem (htext : '\n' ∉ text) : lines text = [text].filter (· ≠ []) := by
  induction text with
  | nil => rfl
  | cons character rest ih =>
    obtain ⟨hfeed, hrest⟩ := not_or.mp (mt List.mem_cons.mpr htext)
    have hhead : character = '\r' → rest.head? ≠ some '\n' := fun _ hfirst ↦
      hrest (List.mem_of_mem_head? hfirst)
    rw [lines_cons (Ne.symm hfeed) hhead, ih hrest]
    cases rest with
    | nil => rfl
    | cons second later => rfl

theorem lines_intercalate (hparts : ∀ part ∈ parts, '\n' ∉ part) :
    lines (['\n'].intercalate parts) = linesOf parts := by
  induction parts with
  | nil => rfl
  | cons part others ih =>
    obtain ⟨hpart, hothers⟩ := List.forall_mem_cons.mp hparts
    cases others with
    | nil =>
      rw [List.intercalate_singleton, lines_of_not_mem hpart]
      rfl
    | cons next later =>
      rw [List.intercalate_cons_cons, List.append_assoc, List.singleton_append,
        lines_append_feed hpart, ih hothers]
      rfl

/-- The lines of a text are read off the parts between its line feeds. -/
theorem lines_eq (text : List Char) : lines text = linesOf (text.splitOn '\n') := by
  have hparts : ∀ part ∈ text.splitOn '\n', '\n' ∉ part := by
    rw [← pieces_eq_splitOn]
    exact fun part ↦ not_mem_of_mem_pieces
  rw [← lines_intercalate hparts, List.intercalate_splitOn]

end Feeds

end SymbolGraph.Text
