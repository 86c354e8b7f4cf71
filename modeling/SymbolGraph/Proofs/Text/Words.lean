import SymbolGraph.Extraction
import SymbolGraph.Proofs.Text.Bytes

/-!
# Words and signatures

The words of a text are what stands between its blanks (`words`). Squashing a text joins its words
by single spaces (`squash_eq`), so texts are squashed alike when they have the same words
(`squash_eq_squash_iff`). A signature is a squashed text that is cut to the bytes it may have
(`signature_canonical`).
-/

set_option autoImplicit false
set_option relaxedAutoImplicit false

namespace SymbolGraph.Text

/-! ### Words -/

section Words

variable {blank : Char} {word text : List Char}

/-- What stands between the blanks of a text. -/
def wordsOf (text : List Char) : List (List Char) :=
  (text.splitOnP isBlank).filter fun piece ↦ piece ≠ []

/-- The words of a text, in order. -/
def words (text : String) : List String :=
  (wordsOf text.toList).map String.ofList

/-- The characters make a word. -/
structure IsWord (word : List Char) : Prop where
  ne_nil : word ≠ []
  not_blank : ∀ character ∈ word, isBlank character = false

theorem isWord_singleton {character : Char} (hcharacter : isBlank character = false) :
    IsWord [character] where
  ne_nil := List.cons_ne_nil character []
  not_blank := List.forall_mem_singleton.mpr hcharacter

/-- A word grows by a character that is no blank. -/
theorem IsWord.concat {character : Char} (hword : IsWord word)
    (hcharacter : isBlank character = false) : IsWord (word ++ [character]) where
  ne_nil := List.append_ne_nil_of_left_ne_nil hword.ne_nil [character]
  not_blank := List.forall_mem_append.mpr
    ⟨hword.not_blank, List.forall_mem_singleton.mpr hcharacter⟩

theorem IsWord.wordsOf_eq (hword : IsWord word) : wordsOf word = [word] := by
  rw [wordsOf, List.splitOnP_eq_singleton hword.not_blank]
  simp [hword.ne_nil]

/-- A blank keeps the words around it apart. -/
theorem wordsOf_append (hblank : isBlank blank = true) (before after : List Char) :
    wordsOf (before ++ blank :: after) = wordsOf before ++ wordsOf after := by
  rw [wordsOf, List.splitOnP_append_cons before after hblank, List.filter_append, wordsOf, wordsOf]

theorem wordsOf_cons (hblank : isBlank blank = true) (after : List Char) :
    wordsOf (blank :: after) = wordsOf after :=
  wordsOf_append hblank [] after

/-- A text without blanks has no other word than itself. -/
theorem isWord_of_mem_of_forall (htext : ∀ character ∈ text, isBlank character = false)
    (hmem : word ∈ wordsOf text) : IsWord word := by
  rw [wordsOf, List.splitOnP_eq_singleton htext] at hmem
  obtain ⟨hsingle, hne⟩ := List.mem_filter.mp hmem
  rw [List.mem_singleton.mp hsingle] at hne ⊢
  exact ⟨of_decide_eq_true hne, htext⟩

theorem isWord_of_mem_wordsOf (hmem : word ∈ wordsOf text) : IsWord word := by
  have hfront (front : List Char) (hblank : ∀ character ∈ front, isBlank character = false) :
      ∀ word ∈ wordsOf (front ++ text), IsWord word := by
    clear hmem
    induction text generalizing front with
    | nil =>
      rw [List.append_nil]
      exact fun word ↦ isWord_of_mem_of_forall hblank
    | cons character rest ih =>
      by_cases hcharacter : isBlank character = true
      · rw [wordsOf_append hcharacter]
        exact List.forall_mem_append.mpr
          ⟨fun word ↦ isWord_of_mem_of_forall hblank, ih [] (List.forall_mem_nil _)⟩
      · rw [← List.singleton_append, ← List.append_assoc]
        exact ih (front ++ [character]) (List.forall_mem_append.mpr
          ⟨hblank, List.forall_mem_singleton.mpr (Bool.eq_false_iff.mpr hcharacter)⟩)
  exact hfront [] (List.forall_mem_nil _) word hmem

end Words

/-! ### Squashing -/

section Squash

variable {word : List Char} {parts : List (List Char)}

/-- Words with a space between each two. -/
def spaced (parts : List (List Char)) : List Char :=
  [' '].intercalate parts

theorem spaced_cons (word : List Char) (parts : List (List Char)) :
    spaced (word :: parts) = word ++ if parts = [] then [] else ' ' :: spaced parts := by
  by_cases hparts : parts = []
  · rw [if_pos hparts, hparts, spaced, List.intercalate_singleton, List.append_nil]
  · rw [if_neg hparts, spaced, List.intercalate_cons_of_ne_nil hparts, List.append_assoc]
    rfl

theorem spaced_eq_nil_iff (hparts : ∀ word ∈ parts, IsWord word) :
    spaced parts = [] ↔ parts = [] := by
  cases parts with
  | nil => exact iff_of_true rfl rfl
  | cons word others =>
    have hne := (hparts word List.mem_cons_self).ne_nil
    rw [spaced_cons, List.append_eq_nil_iff]
    exact iff_of_false (fun hnil ↦ hne hnil.1) (List.cons_ne_nil word others)

/-- The words are found again between the spaces. -/
theorem wordsOf_spaced (hparts : ∀ word ∈ parts, IsWord word) : wordsOf (spaced parts) = parts := by
  induction parts with
  | nil => rfl
  | cons word others ih =>
    obtain ⟨hword, hothers⟩ := List.forall_mem_cons.mp hparts
    rw [spaced_cons]
    by_cases hnone : others = []
    · rw [if_pos hnone, List.append_nil, hword.wordsOf_eq, hnone]
    · rw [if_neg hnone, wordsOf_append (by decide), hword.wordsOf_eq, ih hothers,
        List.singleton_append]

/-- Nothing of a text without blanks is trimmed, whatever follows it. -/
theorem trimEnd_append (hword : ∀ character ∈ word, isBlank character = false)
    (rest : List Char) : trimEnd (word ++ rest) = word ++ trimEnd rest := by
  induction word with
  | nil => rfl
  | cons character others ih =>
    obtain ⟨hcharacter, hothers⟩ := List.forall_mem_cons.mp hword
    rw [List.cons_append, trimEnd, ih hothers, List.cons_append]
    split
    · rename_i hnone
      rw [hnone, hcharacter]
      rfl
    · rfl

/-- A space stays when something is kept of what follows it. -/
theorem trimEnd_space (rest : List Char) :
    trimEnd (' ' :: rest) = if trimEnd rest = [] then [] else ' ' :: trimEnd rest := by
  rw [trimEnd]
  split
  · rename_i hnone
    rw [if_pos hnone]
    rfl
  · rename_i hkept
    rw [if_neg hkept]

/-- Without the blanks at its front, a collapsed text is what is collapsed behind a space. -/
theorem trimStart_collapse (inRun : Bool) (text : List Char) :
    trimStart (collapse inRun text) = collapse true text := by
  induction text generalizing inRun with
  | nil => rfl
  | cons character rest ih =>
    by_cases hblank : isBlank character = true
    · rw [collapse, collapse, if_pos hblank, if_pos hblank, if_pos rfl]
      cases inRun with
      | true => exact ih true
      | false => exact ih true
    · rw [collapse, collapse, if_neg hblank, if_neg hblank]
      exact List.dropWhile_cons_of_neg hblank

/-- What is collapsed behind a space, or behind a word, is the words with a space between each
two. -/
theorem trimEnd_collapse (text : List Char) :
    trimEnd (collapse true text) = spaced (wordsOf text) ∧
      ∀ word, IsWord word →
        trimEnd (word ++ collapse false text) = spaced (wordsOf (word ++ text)) := by
  induction text with
  | nil =>
    refine ⟨rfl, fun word hword ↦ ?_⟩
    rw [trimEnd_append hword.not_blank, List.append_nil, hword.wordsOf_eq, spaced_cons, if_pos rfl]
    rfl
  | cons character rest ih =>
    obtain ⟨hrun, hbehind⟩ := ih
    by_cases hblank : isBlank character = true
    · have hwords : ∀ word ∈ wordsOf rest, IsWord word := fun _ hmem ↦ isWord_of_mem_wordsOf hmem
      constructor
      · rw [collapse, if_pos hblank, if_pos rfl, hrun, wordsOf_cons hblank]
      · intro word hword
        rw [collapse, if_pos hblank, if_neg Bool.false_ne_true, trimEnd_append hword.not_blank,
          trimEnd_space, hrun, wordsOf_append hblank, hword.wordsOf_eq, List.singleton_append,
          spaced_cons]
        simp only [spaced_eq_nil_iff hwords]
    · have hcharacter : isBlank character = false := Bool.eq_false_iff.mpr hblank
      constructor
      · rw [collapse, if_neg hblank]
        exact hbehind [character] (isWord_singleton hcharacter)
      · intro word hword
        have hlonger := hbehind (word ++ [character]) (hword.concat hcharacter)
        rw [List.append_assoc, List.append_assoc] at hlonger
        rw [collapse, if_neg hblank]
        exact hlonger

theorem toList_squash (text : String) : (squash text).toList = spaced (wordsOf text.toList) := by
  rw [squash, String.toList_ofList, trim, trimStart_collapse, (trimEnd_collapse text.toList).1]

/-- A squashed text is made of the words, with a space between each two. -/
theorem squash_eq (text : String) : squash text = join " " (words text) := by
  refine String.toList_inj.mp ?_
  have hlists : (words text).map String.toList = wordsOf text.toList := by
    rw [words, List.map_map]
    exact List.map_id'' (fun word ↦ String.toList_ofList) _
  rw [toList_squash, join, String.toList_intercalate, hlists]
  rfl

/-- Texts are squashed alike when they have the same words. -/
theorem squash_eq_squash_iff {first second : String} :
    squash first = squash second ↔ words first = words second := by
  have hfound (text : String) : words (squash text) = words text := by
    rw [words, toList_squash, wordsOf_spaced fun _ hmem ↦ isWord_of_mem_wordsOf hmem, words]
  constructor
  · intro hsame
    rw [← hfound first, hsame, hfound]
  · intro hsame
    rw [squash_eq, hsame, ← squash_eq]

end Squash

end SymbolGraph.Text

namespace SymbolGraph

open Text

/-! ### Signatures -/

/-- Signatures are canonical texts that are cut between two characters: a squashed text is its
words with a space between each two, it is cut to its longest prefix of whole characters that fits
into the limit, the slice for this is always there, and the same words have the same signature. -/
theorem signature_canonical :
    (∀ raw limit,
      squash raw = join " " (words raw) ∧
      IsCut (squash raw) limit (truncate (squash raw) limit) ∧
      before? (squash raw).toList
          (boundary (squash raw).toList (min limit (squash raw).utf8ByteSize)) =
        some (truncate (squash raw) limit).toList) ∧
    (∀ written, signature written = truncate (squash written) 200) ∧
    ∀ first second, words first = words second → signature first = signature second := by
  refine ⟨fun raw limit ↦ ?_, fun written ↦ rfl, fun first second hwords ↦ ?_⟩
  · exact ⟨squash_eq raw, isCut_truncate _ limit, before?_boundary_eq_some _ limit⟩
  · rw [signature, squash_eq_squash_iff.mpr hwords, signature]

/-- A line break between two parameters leaves the signature as it is. -/
theorem signature_canonical_lineBreak :
    words "(first,\n    second)" = words "(first, second)" ∧
      signature "(first,\n    second)" = signature "(first, second)" := by
  have hwords : words "(first,\n    second)" = words "(first, second)" := by decide
  exact ⟨hwords, signature_canonical.2.2 _ _ hwords⟩

/-- A character that straddles the limit is left out. -/
example : truncate "für" 2 = "f" := by decide

end SymbolGraph
