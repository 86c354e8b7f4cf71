import Mathlib.Data.List.Nodup
import SymbolGraph.Order

/-!
# Lists that are sorted and without repetitions

`sortBy` reorders a list (`perm_sortBy`) so that it ascends (`pairwise_sortBy`), and strictly so
when no two rows have the same keys (`pairwise_sortBy_lt`). Erasing what is repeated leaves a
relation between the elements standing and makes them different (`pairwise_eraseDups`).
-/

set_option autoImplicit false
set_option relaxedAutoImplicit false

namespace SymbolGraph

section Sorting

variable {α : Type} {order : α → α → Ordering} {rows : List α}

theorem perm_sortBy (order : α → α → Ordering) (rows : List α) : (sortBy order rows).Perm rows :=
  List.mergeSort_perm rows _

@[simp]
theorem mem_sortBy_iff {row : α} : row ∈ sortBy order rows ↔ row ∈ rows :=
  List.mem_mergeSort

/-- Of two rows, one is not greater than the other. -/
theorem isLE_total [Std.OrientedCmp order] (left right : α) :
    ((order left right).isLE || (order right left).isLE) = true := by
  have hswap : order right left = (order left right).swap := Std.OrientedCmp.eq_swap
  rw [hswap]
  cases order left right <;> rfl

/-- Sorted rows ascend. -/
theorem pairwise_sortBy [Std.TransCmp order] (rows : List α) :
    (sortBy order rows).Pairwise fun left right ↦ (order left right).isLE = true :=
  List.pairwise_mergeSort (fun _ _ _ ↦ Std.TransCmp.isLE_trans) isLE_total rows

/-- Sorted rows ascend strictly when rows that compare equal have the same key, and no two have. -/
theorem pairwise_sortBy_lt [Std.TransCmp order] {κ : Type} {key : α → κ}
    (hkey : ∀ left right, order left right = .eq → key left = key right)
    (hkeys : (rows.map key).Nodup) :
    (sortBy order rows).Pairwise fun left right ↦ order left right = .lt := by
  have hdistinct : ((sortBy order rows).map key).Nodup :=
    ((perm_sortBy order rows).map key).nodup_iff.mpr hkeys
  refine (pairwise_sortBy rows).imp₂ (fun left right hle hne ↦ ?_) (List.pairwise_map.mp hdistinct)
  rcases Ordering.isLE_iff_eq_lt_or_eq_eq.mp hle with hlt | heq
  · exact hlt
  · exact absurd (hkey left right heq) hne

/-- Rows that are changed and reordered are sorted as before, when the change leaves the comparison
and rows that compare equal are the same. -/
theorem sortBy_of_perm_map [Std.TransCmp order] {κ : Type} (key : α → κ) {change : α → α}
    {others : List α} (hkey : ∀ left right, order left right = .eq → key left = key right)
    (hkeys : (rows.map key).Nodup)
    (hchange : ∀ left ∈ rows, ∀ right ∈ rows, order (change left) (change right) = order left right)
    (hperm : others.Perm (rows.map change)) :
    sortBy order others = (sortBy order rows).map change := by
  have hsorted : ((sortBy order rows).map change).Pairwise fun left right ↦
      (order left right).isLE = true := by
    refine List.pairwise_map.mpr ((pairwise_sortBy rows).imp_of_mem fun hleft hright hle ↦ ?_)
    rwa [hchange _ (mem_sortBy_iff.mp hleft) _ (mem_sortBy_iff.mp hright)]
  refine List.Perm.eq_of_pairwise ?_ (pairwise_sortBy others) hsorted ?_
  · intro first second hfirst hsecond hle hge
    rw [mem_sortBy_iff, hperm.mem_iff] at hfirst
    obtain ⟨left, hleft, rfl⟩ := List.mem_map.mp hfirst
    obtain ⟨right, hsorted, rfl⟩ := List.mem_map.mp hsecond
    have hright := mem_sortBy_iff.mp hsorted
    have heq := Std.OrientedCmp.isLE_antisymm hle hge
    rw [hchange left hleft right hright] at heq
    rw [List.inj_on_of_nodup_map hkeys hleft hright (hkey left right heq)]
  · exact (perm_sortBy order others).trans
      (hperm.trans ((perm_sortBy order rows).map change).symm)

end Sorting

/-- Values of a list that are left when repetitions are erased stand in the same relation as before,
and they are different. -/
theorem pairwise_eraseDups {α : Type} [DecidableEq α] {relation : α → α → Prop} {values : List α}
    (hvalues : values.Pairwise relation) :
    values.eraseDups.Pairwise fun left right ↦ relation left right ∧ left ≠ right := by
  induction hlength : values.length using Nat.strongRecOn generalizing values with
  | ind length ih =>
    cases values with
    | nil => exact List.Pairwise.nil
    | cons value rest =>
      obtain ⟨hvalue, hrest⟩ := List.pairwise_cons.mp hvalues
      have hshorter := List.length_filter_le (fun other ↦ !other == value) rest
      rw [List.eraseDups_cons]
      refine List.pairwise_cons.mpr ⟨fun other hother ↦ ?_, ih _ ?_ (hrest.filter _) rfl⟩
      · obtain ⟨hmem, hne⟩ := List.mem_filter.mp (List.mem_eraseDups.mp hother)
        rw [Bool.not_eq_true', beq_eq_false_iff_ne] at hne
        exact ⟨hvalue other hmem, hne.symm⟩
      · rw [← hlength, List.length_cons]
        exact Nat.lt_succ_of_le hshorter

theorem nodup_eraseDups {α : Type} [DecidableEq α] (values : List α) : values.eraseDups.Nodup := by
  have htrivial : values.Pairwise fun _ _ ↦ True := List.pairwise_of_forall fun _ _ ↦ trivial
  exact (pairwise_eraseDups htrivial).imp fun hpair ↦ hpair.2

end SymbolGraph
