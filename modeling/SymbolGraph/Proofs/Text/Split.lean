import SymbolGraph.Text.Split

/-!
# Cutting at a separator

Where a text is cut: at its first separator (`eq_of_cutFirst_eq_some`), at its last one
(`eq_of_cutLast_eq_some`), or not at all when it has none. A separator ends a piece
(`pieces_append`), and with the separators between them the pieces are the text again
(`join_split`), as texts without separators are the pieces of what they are joined to
(`split_join`). The last of all pieces is what follows the last separator
(`getLast?_pieces_append`, `pieces_of_not_mem`), and a text ends with the pieces of another one when
it is that text or ends with it behind a separator (`split_suffix_iff`).
-/

set_option autoImplicit false
set_option relaxedAutoImplicit false

namespace SymbolGraph.Text

variable {separator : Char} {text before after : List Char}

/-! ### The first separator -/

theorem cutFirst_eq_none_iff : cutFirst separator text = none ↔ separator ∉ text := by
  induction text with
  | nil => simp [cutFirst]
  | cons character rest ih =>
    unfold cutFirst
    by_cases hsame : character = separator
    · simp [hsame]
    · simp [hsame, ih, Ne.symm hsame]

/-- The text is cut at a separator that none comes before. -/
theorem eq_of_cutFirst_eq_some (hcut : cutFirst separator text = some (before, after)) :
    text = before ++ separator :: after ∧ separator ∉ before := by
  induction text generalizing before with
  | nil => cases hcut
  | cons character rest ih =>
    unfold cutFirst at hcut
    split at hcut
    · rename_i hsame
      obtain ⟨rfl, rfl⟩ := Prod.mk.inj (Option.some.inj hcut)
      exact ⟨congrArg (· :: rest) hsame, List.not_mem_nil⟩
    · rename_i hother
      obtain ⟨⟨earlier, later⟩, hrest, heq⟩ := Option.map_eq_some_iff.mp hcut
      obtain ⟨rfl, rfl⟩ := Prod.mk.inj heq
      obtain ⟨rfl, hnone⟩ := ih hrest
      refine ⟨rfl, fun hmem ↦ ?_⟩
      rcases List.mem_cons.mp hmem with hsame | hearlier
      · exact hother hsame.symm
      · exact hnone hearlier

/-- The first separator of a text is the first one that nothing comes before. -/
theorem cutFirst_append (hnone : separator ∉ before) (after : List Char) :
    cutFirst separator (before ++ separator :: after) = some (before, after) := by
  induction before with
  | nil => simp [cutFirst]
  | cons character rest ih =>
    rw [List.mem_cons, not_or] at hnone
    rw [List.cons_append, cutFirst, if_neg (Ne.symm hnone.1), ih hnone.2]
    rfl

/-! ### The last separator -/

theorem cutLast_eq_none_iff : cutLast separator text = none ↔ separator ∉ text := by
  induction text with
  | nil => simp [cutLast]
  | cons character rest ih =>
    unfold cutLast
    cases hrest : cutLast separator rest with
    | some cut =>
      have hmem : separator ∈ rest := by
        by_cases hrestMem : separator ∈ rest
        · exact hrestMem
        · rw [ih.mpr hrestMem] at hrest
          cases hrest
      simp [hmem]
    | none =>
      have hnone := ih.mp hrest
      by_cases hsame : character = separator
      · simp [hsame]
      · simp [hsame, hnone, Ne.symm hsame]

/-- The text is cut at a separator that none comes after. -/
theorem eq_of_cutLast_eq_some (hcut : cutLast separator text = some (before, after)) :
    text = before ++ separator :: after ∧ separator ∉ after := by
  induction text generalizing before with
  | nil => cases hcut
  | cons character rest ih =>
    unfold cutLast at hcut
    split at hcut
    · rename_i earlier later hrest
      obtain ⟨rfl, rfl⟩ := Prod.mk.inj (Option.some.inj hcut)
      obtain ⟨rfl, hnone⟩ := ih hrest
      exact ⟨rfl, hnone⟩
    · rename_i hnone
      split at hcut
      · rename_i hsame
        obtain ⟨rfl, rfl⟩ := Prod.mk.inj (Option.some.inj hcut)
        exact ⟨congrArg (· :: rest) hsame, cutLast_eq_none_iff.mp hnone⟩
      · cases hcut

/-- The last separator of a text is the one that none comes after. -/
theorem cutLast_append (hnone : separator ∉ after) (before : List Char) :
    cutLast separator (before ++ separator :: after) = some (before, after) := by
  induction before with
  | nil => simp [cutLast, cutLast_eq_none_iff.mpr hnone]
  | cons character rest ih => rw [List.cons_append, cutLast, ih]

/-! ### Pieces -/

section Pieces

variable {Letter : Type} [DecidableEq Letter] {separator : Letter} {list : List Letter}

theorem pieces_ne_nil (separator : Letter) (list : List Letter) : pieces separator list ≠ [] := by
  cases list with
  | nil => exact List.cons_ne_nil _ _
  | cons letter rest =>
    unfold pieces
    split
    · exact List.cons_ne_nil _ _
    · split
      · exact List.cons_ne_nil _ _
      · exact List.cons_ne_nil _ _

/-- A list without separators is one piece. -/
theorem pieces_of_not_mem (hnone : separator ∉ list) : pieces separator list = [list] := by
  induction list with
  | nil => rfl
  | cons letter rest ih =>
    rw [List.mem_cons, not_or] at hnone
    unfold pieces
    rw [if_neg (Ne.symm hnone.1), ih hnone.2]

/-- A list is cut as the library splits it. -/
theorem pieces_eq_splitOn (separator : Letter) (list : List Letter) :
    pieces separator list = list.splitOn separator := by
  induction list with
  | nil => rfl
  | cons letter rest ih =>
    obtain ⟨first, others, hrest⟩ := List.exists_cons_of_ne_nil (pieces_ne_nil separator rest)
    rw [pieces, List.splitOn_cons_eq_if_modifyHead, ← ih, hrest]
    by_cases hsame : letter = separator
    · rw [if_pos hsame, if_pos (beq_iff_eq.mpr hsame)]
    · rw [if_neg hsame, if_neg (fun hbeq ↦ hsame (beq_iff_eq.mp hbeq))]
      rfl

/-- No separator is in a piece. -/
theorem not_mem_of_mem_pieces {piece : List Letter} (hpiece : piece ∈ pieces separator list) :
    separator ∉ piece := by
  induction list generalizing piece with
  | nil =>
    rw [List.mem_singleton.mp hpiece]
    exact List.not_mem_nil
  | cons letter rest ih =>
    unfold pieces at hpiece
    split at hpiece
    · rcases List.mem_cons.mp hpiece with rfl | hrest
      · exact List.not_mem_nil
      · exact ih hrest
    · rename_i hother
      split at hpiece
      · rename_i hnone
        exact absurd hnone (pieces_ne_nil separator rest)
      · rename_i first others hpieces
        rcases List.mem_cons.mp hpiece with rfl | hlater
        · have hfirst : separator ∉ first := ih (hpieces ▸ List.mem_cons_self)
          exact List.not_mem_cons_of_ne_of_not_mem (Ne.symm hother) hfirst
        · exact ih (hpieces ▸ List.mem_cons_of_mem first hlater)

/-- What is no separator is in a piece. -/
theorem exists_mem_pieces {letter : Letter} (hmem : letter ∈ list) (hother : letter ≠ separator) :
    ∃ piece ∈ pieces separator list, letter ∈ piece := by
  induction list with
  | nil => cases hmem
  | cons first rest ih =>
    unfold pieces
    split
    · rename_i hfirst
      have hrest : letter ∈ rest :=
        (List.mem_cons.mp hmem).resolve_left fun hsame ↦ hother (hsame.trans hfirst)
      obtain ⟨piece, hpiece, hin⟩ := ih hrest
      exact ⟨piece, List.mem_cons_of_mem [] hpiece, hin⟩
    · obtain ⟨head, others, hpieces⟩ := List.exists_cons_of_ne_nil (pieces_ne_nil separator rest)
      rw [hpieces] at ih ⊢
      rcases List.mem_cons.mp hmem with rfl | hrest
      · exact ⟨letter :: head, List.mem_cons_self, List.mem_cons_self⟩
      · obtain ⟨piece, hpiece, hin⟩ := ih hrest
        rcases List.mem_cons.mp hpiece with rfl | hlater
        · exact ⟨first :: piece, List.mem_cons_self, List.mem_cons_of_mem first hin⟩
        · exact ⟨piece, List.mem_cons_of_mem _ hlater, hin⟩

/-- A separator ends a piece, and the pieces of what follows it come after that one. -/
theorem pieces_append (before after : List Letter) :
    pieces separator (before ++ separator :: after) =
      pieces separator before ++ pieces separator after := by
  simp only [pieces_eq_splitOn]
  exact List.splitOnP_append_cons before after (beq_self_eq_true separator)

/-- The last piece comes after every separator. -/
theorem getLast?_pieces_append (before after : List Letter) :
    (pieces separator (before ++ separator :: after)).getLast? =
      (pieces separator after).getLast? := by
  rw [pieces_append, List.getLast?_append]
  exact Option.or_of_isSome (List.getLast?_isSome.mpr (pieces_ne_nil separator after))

end Pieces

/-! ### Split texts -/

theorem split_ne_nil (separator : Char) (text : String) : split separator text ≠ [] :=
  mt List.map_eq_nil_iff.mp (pieces_ne_nil separator text.toList)

theorem not_mem_of_mem_split {text piece : String} (hpiece : piece ∈ split separator text) :
    separator ∉ piece.toList := by
  obtain ⟨characters, hmem, rfl⟩ := List.mem_map.mp hpiece
  rw [String.toList_ofList]
  exact not_mem_of_mem_pieces hmem

/-- With the separator between them, the pieces of a text are the text again. -/
theorem join_split (separator : Char) (text : String) :
    join (String.singleton separator) (split separator text) = text := by
  refine String.toList_inj.mp ?_
  have hpieces : (split separator text).map String.toList = text.toList.splitOn separator := by
    rw [split, List.map_map, ← pieces_eq_splitOn]
    exact List.map_id'' (fun piece ↦ String.toList_ofList) _
  rw [join, String.toList_intercalate, hpieces, String.toList_singleton, List.intercalate_splitOn]

theorem split_injective (separator : Char) : Function.Injective (split separator) :=
  Function.LeftInverse.injective (join_split separator)

/-- Texts without separators, joined by the separator, are cut into the texts again. -/
theorem split_join {texts : List String} (hnone : ∀ text ∈ texts, separator ∉ text.toList)
    (hne : texts ≠ []) : split separator (join (String.singleton separator) texts) = texts := by
  have hlists : ∀ list ∈ texts.map String.toList, separator ∉ list := by
    intro list hlist
    obtain ⟨text, htext, rfl⟩ := List.mem_map.mp hlist
    exact hnone text htext
  rw [split, join, String.toList_intercalate, String.toList_singleton, pieces_eq_splitOn,
    List.splitOn_intercalate separator hlists (mt List.map_eq_nil_iff.mp hne), List.map_map]
  exact List.map_id'' (fun text ↦ String.ofList_toList) texts

/-- What is joined begins with the first text. -/
theorem prefix_join (separator first : String) (others : List String) :
    first.toList <+: (join separator (first :: others)).toList := by
  rw [join, String.toList_intercalate, List.map_cons]
  cases others with
  | nil => simp
  | cons second later =>
    rw [List.map_cons, List.intercalate_cons_cons, List.append_assoc]
    exact List.prefix_append _ _

/-- What is joined last stands behind all others and a separator. -/
theorem join_concat {separator : String} {texts : List String} (hne : texts ≠ []) (last : String) :
    join separator (texts ++ [last]) = join separator texts ++ separator ++ last := by
  rw [join, String.intercalate_append_of_ne_nil hne (List.cons_ne_nil _ _),
    String.intercalate_singleton, join]

/-- Texts with the separator between each two, unless there are none. -/
def joined? (separator : String) : List String → Option String
  | [] => none
  | texts => some (join separator texts)

theorem joined?_of_ne_nil {separator : String} {texts : List String} (hne : texts ≠ []) :
    joined? separator texts = some (join separator texts) := by
  cases texts with
  | nil => exact absurd rfl hne
  | cons first others => rfl

/-- A separator between two texts keeps their pieces apart. -/
theorem split_append (before after : String) :
    split separator (before ++ String.singleton separator ++ after) =
      split separator before ++ split separator after := by
  simp only [split, String.toList_append, String.toList_singleton, List.append_assoc,
    List.singleton_append, pieces_append, List.map_append]

/-- The last pieces of a text are those of the text itself, or of what follows a separator. -/
theorem split_suffix_iff {text ending : String} :
    split separator ending <:+ split separator text ↔
      text = ending ∨ separator :: ending.toList <:+ text.toList := by
  constructor
  · rintro ⟨before, hsplit⟩
    by_cases hbefore : before = []
    · rw [hbefore, List.nil_append] at hsplit
      exact Or.inl (split_injective separator hsplit).symm
    · have hjoin := join_split separator text
      rw [← hsplit, join,
        String.intercalate_append_of_ne_nil hbefore (split_ne_nil separator ending), ← join,
        ← join, join_split] at hjoin
      refine Or.inr ⟨(join (String.singleton separator) before).toList, ?_⟩
      simp only [← hjoin, String.toList_append, String.toList_singleton, List.append_assoc,
        List.singleton_append]
  · rintro (rfl | ⟨before, htext⟩)
    · exact List.suffix_rfl
    · have hparts : text = String.ofList before ++ String.singleton separator ++ ending := by
        refine String.toList_inj.mp ?_
        simp [← htext]
      rw [hparts, split_append]
      exact List.suffix_append _ _

/-- A text that ends without a separator after the last one ends with this piece. -/
theorem getLast?_split_of_cutLast {text : String}
    (hcut : cutLast separator text.toList = some (before, after)) :
    (split separator text).getLast? = some (String.ofList after) := by
  obtain ⟨htext, hnone⟩ := eq_of_cutLast_eq_some hcut
  rw [split, htext, List.getLast?_map, getLast?_pieces_append, pieces_of_not_mem hnone]
  rfl

end SymbolGraph.Text
