import SymbolGraph.Proofs.Path.Suffix

/-!
# Matching whole segments

A segmented path has nothing between its slashes that is empty or `.` (`IsSegmented`). Any path
matches a segmented candidate when it ends with the segments of the candidate
(`matchesSuffix_iff_split`), and `./` steps before the candidate change nothing
(`matchesSuffix_here`). So matching orders the segmented paths, and what matches another path is
longer (`matchesSuffix_wholeSegments`).
-/

set_option autoImplicit false
set_option relaxedAutoImplicit false

namespace SymbolGraph.Path

variable {path candidate first second third : String}

theorem IsSegmented.isPlain (hpath : IsSegmented path) : IsPlain path := by
  obtain ⟨segment, others, hsplit⟩ := List.exists_cons_of_ne_nil (Text.split_ne_nil '/' path)
  have hsegment : IsSegment segment := hpath segment (hsplit ▸ List.mem_cons_self)
  obtain ⟨rest, hrest⟩ := Text.prefix_join (String.singleton '/') segment others
  rw [← hsplit, Text.join_split] at hrest
  exact isPlain_of_isSegment hsegment hrest.symm

/-- Steps that stay where they are do not count before a candidate. -/
theorem matchesSuffix_here (path candidate : String) (count : Nat) :
    matchesSuffix path (String.join (List.replicate count "./") ++ candidate) =
      matchesSuffix path candidate := by
  have hdrop : dropHere (String.join (List.replicate count "./") ++ candidate).toList =
      dropHere candidate.toList := by
    induction count with
    | zero => rfl
    | succ count ih =>
      rw [List.replicate_succ, String.join_cons, String.append_assoc, String.toList_append]
      exact ih
  rw [matchesSuffix, hdrop, matchesSuffix]

/-- A path matches a segmented candidate when it ends with the segments of the candidate. -/
theorem matchesSuffix_iff_split (hcandidate : IsSegmented candidate) :
    matchesSuffix path candidate = true ↔ Text.split '/' candidate <:+ Text.split '/' path := by
  rw [matchesSuffix_iff hcandidate.isPlain, Text.split_suffix_iff]

theorem matchesSuffix_trans (hsecond : IsSegmented second) (hthird : IsSegmented third)
    (hfirst : matchesSuffix first second = true) (hrest : matchesSuffix second third = true) :
    matchesSuffix first third = true := by
  rw [matchesSuffix_iff_split hsecond] at hfirst
  rw [matchesSuffix_iff_split hthird] at hrest ⊢
  exact hrest.trans hfirst

theorem matchesSuffix_antisymm (hfirst : IsSegmented first) (hsecond : IsSegmented second)
    (hforth : matchesSuffix first second = true) (hback : matchesSuffix second first = true) :
    first = second := by
  rw [matchesSuffix_iff_split hsecond] at hforth
  rw [matchesSuffix_iff_split hfirst] at hback
  exact Text.split_injective '/' (hback.eq_of_length_le hforth.length_le)

/-- Whole segments are compared: a path matches a segmented candidate, with any number of `./` steps
before it, when the segments of the candidate are the last ones of the path. On segmented paths
matching is reflexive, transitive and antisymmetric, and a path that matches another candidate has
more characters than the candidate. -/
theorem matchesSuffix_wholeSegments :
    (∀ path candidate count, IsSegmented candidate →
      (matchesSuffix path (String.join (List.replicate count "./") ++ candidate) = true ↔
        Text.split '/' candidate <:+ Text.split '/' path)) ∧
    (∀ path, IsSegmented path → matchesSuffix path path = true) ∧
    (∀ first second third, IsSegmented second → IsSegmented third →
      matchesSuffix first second = true → matchesSuffix second third = true →
        matchesSuffix first third = true) ∧
    (∀ first second, IsSegmented first → IsSegmented second →
      matchesSuffix first second = true → matchesSuffix second first = true → first = second) ∧
    ∀ path candidate, IsSegmented candidate → path ≠ candidate →
      matchesSuffix path candidate = true → candidate.length < path.length := by
  refine ⟨fun path candidate count hcandidate ↦ ?_,
    fun path hpath ↦ matchesSuffix_self hpath.isPlain,
    fun _ _ _ hsecond hthird ↦ matchesSuffix_trans hsecond hthird,
    fun _ _ hfirst hsecond ↦ matchesSuffix_antisymm hfirst hsecond,
    fun path candidate hcandidate hother hmatches ↦ ?_⟩
  · rw [matchesSuffix_here, matchesSuffix_iff_split hcandidate]
  · exact (eq_or_length_lt_of_matchesSuffix hcandidate.isPlain hmatches).resolve_left hother

/-- A file in a directory matches its name, with characters of several bytes on either side of the
slash, and its name does not match it. -/
theorem matchesSuffix_wholeSegments_nestedFile :
    IsSegmented "src/données/文.py" ∧ IsSegmented "données/文.py" ∧ IsSegmented "文.py" ∧
    matchesSuffix "src/données/文.py"
      (String.join (List.replicate 2 "./") ++ "données/文.py") = true ∧
    matchesSuffix "文.py" "文.py" = true ∧
    matchesSuffix "src/données/文.py" "文.py" = true ∧
    matchesSuffix "文.py" "données/文.py" ≠ true ∧
    "données/文.py".length < "src/données/文.py".length := by
  obtain ⟨hsegments, hself, htrans, hantisymm, hlonger⟩ := matchesSuffix_wholeSegments
  have hwhole : IsSegmented "src/données/文.py" := by decide
  have hinner : IsSegmented "données/文.py" := by decide
  have hname : IsSegmented "文.py" := by decide
  have hnamed : matchesSuffix "données/文.py" "文.py" = true := by decide
  have hmatches : matchesSuffix "src/données/文.py" "données/文.py" = true := by decide
  refine ⟨hwhole, hinner, hname, (hsegments _ _ 2 hinner).mpr (by decide), hself _ hname,
    htrans _ _ _ hinner hname hmatches hnamed, fun hback ↦ ?_,
    hlonger _ _ hinner (by decide) hmatches⟩
  exact absurd (hantisymm _ _ hinner hname hnamed hback) (by decide)

end SymbolGraph.Path
