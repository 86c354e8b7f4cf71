import Mathlib.Data.List.Infix
import SymbolGraph.Path.Relative
import SymbolGraph.Proofs.Text.Bytes
import SymbolGraph.Proofs.Text.Split

/-!
# Paths that end with a candidate

A candidate is plain when it is not empty and does not begin with `./` (`IsPlain`). Paths are
compared byte by byte, but an ending behind a `/` is a whole number of characters
(`matchesSuffix_iff`): a path matches a plain candidate when it is the candidate
(`matchesSuffix_self`), or when it ends with it after a `/` and is longer
(`eq_or_length_lt_of_matchesSuffix`). What a walk inside a repository reaches begins
with a segment that names something (`exists_segment_of_join?`), so it is plain, and it stays plain
when an extension or a file name is put behind it.
-/

set_option autoImplicit false
set_option relaxedAutoImplicit false

namespace SymbolGraph.Path

/-- The path is not empty and does not begin with `./`. -/
structure IsPlain (path : String) : Prop where
  dropHere : dropHere path.toList = path.toList
  ne_empty : path.toList ≠ []

theorem dropHere_cons_of_ne {character : Char} (hfirst : character ≠ '.') (rest : List Char) :
    dropHere (character :: rest) = character :: rest := by
  unfold dropHere
  split
  · rename_i heq
    exact absurd (List.cons.inj heq).1 hfirst
  · rfl

theorem dropHere_cons_cons_of_ne {second : Char} (hsecond : second ≠ '/') (first : Char)
    (rest : List Char) : dropHere (first :: second :: rest) = first :: second :: rest := by
  unfold dropHere
  split
  · rename_i heq
    exact absurd (List.cons.inj (List.cons.inj heq).2).1 hsecond
  · rfl

/-- What begins with another character than a dot is plain. -/
theorem isPlain_of_toList_eq_cons {path : String} {first : Char} {rest : List Char}
    (hfirst : first ≠ '.') (hpath : path.toList = first :: rest) : IsPlain path where
  dropHere := hpath ▸ dropHere_cons_of_ne hfirst rest
  ne_empty := hpath ▸ List.cons_ne_nil first rest

/-! ### Matching -/

section Matching

variable {path candidate : String}

theorem endsBehindSlash_iff {whole ending : List UInt8} :
    endsBehindSlash whole ending = true ↔ '/'.toUInt8 :: ending <:+ whole := by
  unfold endsBehindSlash
  split
  · rename_i hlonger
    have hplace : whole.length - ending.length - 1 < whole.length := by omega
    have hnext : whole.length - ending.length - 1 + 1 = whole.length - ending.length := by omega
    rw [Bool.and_eq_true, List.isSuffixOf_iff_suffix, beq_iff_eq, List.suffix_iff_eq_drop,
      List.suffix_iff_eq_drop, List.length_cons, ← Nat.sub_sub,
      List.drop_eq_getElem_cons hplace, hnext, List.cons.injEq]
    exact and_comm.trans (and_congr_left' eq_comm)
  · rename_i hshort
    refine iff_of_false Bool.false_ne_true fun hsuffix ↦ hshort ?_
    exact hsuffix.length_le

/-- A path matches a plain candidate when it is the candidate or ends with it after a `/`. -/
theorem matchesSuffix_iff (hplain : IsPlain candidate) :
    matchesSuffix path candidate = true ↔
      path = candidate ∨ '/' :: candidate.toList <:+ path.toList := by
  have hslash : Text.bytes ('/' :: candidate.toList) =
      '/'.toUInt8 :: Text.bytes candidate.toList := rfl
  unfold matchesSuffix
  rw [hplain.dropHere]
  split
  · rename_i hempty
    exact absurd hempty hplain.ne_empty
  · rw [Bool.or_eq_true, beq_iff_eq, String.toList_inj, endsBehindSlash_iff, ← hslash,
      Text.bytes_suffix_iff]

theorem matchesSuffix_self (hplain : IsPlain candidate) :
    matchesSuffix candidate candidate = true :=
  (matchesSuffix_iff hplain).mpr (Or.inl rfl)

/-- Paths that merely end with the candidate are longer than it is. -/
theorem eq_or_length_lt_of_matchesSuffix (hplain : IsPlain candidate)
    (hmatches : matchesSuffix path candidate = true) :
    path = candidate ∨ candidate.length < path.length := by
  refine ((matchesSuffix_iff hplain).mp hmatches).imp_right fun hsuffix ↦ ?_
  have hle := hsuffix.length_le
  rw [List.length_cons, String.length_toList, String.length_toList] at hle
  exact hle

end Matching

/-! ### Places inside a repository -/

/-- The text names one step down. -/
structure IsSegment (text : String) : Prop where
  ne_empty : text ≠ ""
  ne_here : text ≠ "."
  not_mem : '/' ∉ text.toList

instance {text : String} : Decidable (IsSegment text) :=
  decidable_of_iff (text ≠ "" ∧ text ≠ "." ∧ '/' ∉ text.toList)
    ⟨fun ⟨hempty, hhere, hslash⟩ ↦ ⟨hempty, hhere, hslash⟩,
      fun hsegment ↦ ⟨hsegment.ne_empty, hsegment.ne_here, hsegment.not_mem⟩⟩

/-- The path is written segment by segment, with nothing else between its slashes; some of the
segments may be `..`. -/
def IsSegmented (path : String) : Prop :=
  ∀ segment ∈ Text.split '/' path, IsSegment segment

instance {path : String} : Decidable (IsSegmented path) :=
  inferInstanceAs (Decidable (∀ segment ∈ Text.split '/' path, IsSegment segment))

/-- What begins with a segment does not begin with `./`. -/
theorem isPlain_of_isSegment {segment path : String} (hsegment : IsSegment segment)
    {rest : List Char} (hpath : path.toList = segment.toList ++ rest) : IsPlain path := by
  have hne : segment.toList ≠ [] := by simpa using hsegment.ne_empty
  have hnot := hsegment.not_mem
  have hhere : segment.toList ≠ ['.'] := fun heq ↦
    hsegment.ne_here (String.toList_inj.mp heq)
  refine ⟨?_, by simp [hpath, hne]⟩
  rw [hpath]
  generalize segment.toList = characters at hne hnot hhere
  match characters, hne with
  | [single], _ =>
    exact dropHere_cons_of_ne (fun heq ↦ hhere (congrArg (fun first ↦ [first]) heq)) rest
  | first :: second :: others, _ =>
    have hsecond : second ≠ '/' := by
      rintro rfl
      exact hnot (List.mem_cons_of_mem first List.mem_cons_self)
    exact dropHere_cons_cons_of_ne hsecond first (others ++ rest)

theorem isSegment_of_mem_segments {path segment : String} (hsegment : segment ∈ segments path) :
    IsSegment segment := by
  obtain ⟨hpiece, htest⟩ := List.mem_filter.mp hsegment
  rw [decide_eq_true_iff] at htest
  exact ⟨htest.1, htest.2, Text.not_mem_of_mem_split hpiece⟩

/-- One step of a walk leads through segments again. -/
theorem forall_isSegment_step {place next : List String} {piece : String}
    (hplace : ∀ segment ∈ place, IsSegment segment) (hpiece : '/' ∉ piece.toList)
    (hstep : step place piece = some next) : ∀ segment ∈ next, IsSegment segment := by
  unfold step at hstep
  split at hstep
  · exact Option.some.inj hstep ▸ hplace
  · exact Option.some.inj hstep ▸ hplace
  · split at hstep
    · cases hstep
    · rename_i first outer
      rw [← Option.some.inj hstep]
      exact fun segment hsegment ↦ hplace segment (List.mem_cons_of_mem first hsegment)
  · rename_i hempty hhere _
    rw [← Option.some.inj hstep]
    exact List.forall_mem_cons.mpr ⟨⟨hempty, hhere, hpiece⟩, hplace⟩

theorem forall_isSegment_walk {place pieces last : List String}
    (hplace : ∀ segment ∈ place, IsSegment segment) (hpieces : ∀ piece ∈ pieces, '/' ∉ piece.toList)
    (hwalk : walk place pieces = some last) : ∀ segment ∈ last, IsSegment segment := by
  induction pieces generalizing place with
  | nil => exact Option.some.inj hwalk ▸ hplace
  | cons piece rest ih =>
    obtain ⟨next, hstep, hrest⟩ := Option.bind_eq_some_iff.mp hwalk
    obtain ⟨hpiece, hothers⟩ := List.forall_mem_cons.mp hpieces
    exact ih (forall_isSegment_step hplace hpiece hstep) hothers hrest

/-- The place that a walk reaches begins with a segment. -/
theorem exists_segment_of_join? {base relative path : String}
    (hjoin : join? base relative = some path) :
    ∃ segment rest, IsSegment segment ∧ path.toList = segment.toList ++ rest := by
  unfold join? at hjoin
  split at hjoin
  · cases hjoin
  · cases hjoin
  · rename_i place hne hwalk
    obtain rfl := Option.some.inj hjoin
    have hplace : ∀ segment ∈ place.reverse, IsSegment segment := by
      refine fun segment hsegment ↦ forall_isSegment_walk (fun inner hinner ↦ ?_) ?_ hwalk segment
        (List.mem_reverse.mp hsegment)
      · exact isSegment_of_mem_segments (List.mem_reverse.mp hinner)
      · exact fun piece hpiece ↦ Text.not_mem_of_mem_split hpiece
    have hnonempty : place.reverse ≠ [] := fun hnil ↦ hne (List.reverse_eq_nil_iff.mp hnil)
    obtain ⟨first, others, hreverse⟩ := List.exists_cons_of_ne_nil hnonempty
    rw [hreverse] at hplace ⊢
    obtain ⟨rest, hrest⟩ := Text.prefix_join "/" first others
    exact ⟨first, rest, hplace first List.mem_cons_self, hrest.symm⟩

end SymbolGraph.Path
