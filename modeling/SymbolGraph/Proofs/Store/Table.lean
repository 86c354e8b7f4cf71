import Mathlib.Data.List.Count
import Mathlib.Data.List.Forall2
import Mathlib.Data.List.Nodup
import SymbolGraph.Store.Basic

/-!
# Tables

A table lists its rows by ascending ids, each under a natural key that no other row has
(`KeyedTable`). Two things happen to a table: rows are amended in their places, and a row is added
at the end under the next id (`KeyedTable.concat`). `TableGrows` is what the two have in common: the
rows stay, in their order, and every row is still what it was as far as a relation tells.
-/

set_option autoImplicit false
set_option relaxedAutoImplicit false

namespace SymbolGraph.Store

variable {α κ : Type}

/-! ### Ids of new rows -/

theorem start_le_foldl_max (ids : List Int) (start : Int) : start ≤ ids.foldl max start := by
  induction ids generalizing start with
  | nil => exact Int.le_refl start
  | cons first rest ih => exact Int.le_trans (Int.le_max_left start first) (ih _)

theorem le_foldl_max {ids : List Int} {id : Int} (hid : id ∈ ids) (start : Int) :
    id ≤ ids.foldl max start := by
  induction ids generalizing start with
  | nil => cases hid
  | cons first rest ih =>
    rcases List.mem_cons.mp hid with rfl | hrest
    · exact Int.le_trans (Int.le_max_right start id) (start_le_foldl_max rest _)
    · exact ih hrest _

/-- A new id is larger than every id in use. -/
theorem lt_nextId {ids : List Int} {id : Int} (hid : id ∈ ids) : id < nextId ids :=
  Int.lt_add_one_of_le (le_foldl_max hid 0)

/-- Ids begin with one. -/
theorem one_le_nextId (ids : List Int) : 1 ≤ nextId ids := by
  have hstart := start_le_foldl_max ids 0
  unfold nextId
  omega

/-! ### Amended rows and added rows -/

/-- What holds of all rows and of the added one holds of all rows afterwards. -/
theorem forall_mem_concat {rows : List α} {added : α} {holds : α → Prop}
    (hrows : ∀ row ∈ rows, holds row) (hadded : holds added) :
    ∀ row ∈ rows ++ [added], holds row :=
  List.forall_mem_append.mpr ⟨hrows, List.forall_mem_singleton.mpr hadded⟩

/-- What holds of all rows holds of the amended ones when amending a row keeps it. -/
theorem forall_mem_amendWhere {test : α → Bool} {amend : α → α} {rows : List α} {holds : α → Prop}
    (hrows : ∀ row ∈ rows, holds row)
    (hamend : ∀ row, test row = true → holds row → holds (amend row)) :
    ∀ row ∈ amendWhere test amend rows, holds row := by
  refine List.forall_mem_map.mpr fun row hrow ↦ ?_
  split
  · rename_i htest
    exact hamend row htest (hrows row hrow)
  · exact hrows row hrow

/-- A column that amending a row keeps is the same in the amended table. -/
theorem map_amendWhere {test : α → Bool} {amend : α → α} {column : α → κ}
    (hcolumn : ∀ row, column (amend row) = column row) (rows : List α) :
    (amendWhere test amend rows).map column = rows.map column := by
  rw [amendWhere, List.map_map]
  refine List.map_congr_left fun row _ ↦ ?_
  rw [Function.comp_apply]
  split
  · exact hcolumn row
  · rfl

/-- Where no row passes the test, the table stays as it is. -/
theorem amendWhere_of_forall_not {test : α → Bool} {amend : α → α} {rows : List α}
    (hnone : ∀ row ∈ rows, test row = false) : amendWhere test amend rows = rows := by
  calc
    amendWhere test amend rows = rows.map id := by
      refine List.map_congr_left fun row hrow ↦ ?_
      rw [hnone row hrow]
      rfl
    _ = rows := List.map_id rows

/-- Fewer rows pass the first test when they all pass the second, and one passes that alone. -/
theorem countP_lt_countP {rows : List α} {first second : α → Bool}
    (himp : ∀ row ∈ rows, first row = true → second row = true) {row : α} (hrow : row ∈ rows)
    (hfirst : first row = false) (hsecond : second row = true) :
    rows.countP first < rows.countP second := by
  have hfiltered : rows.countP first = (rows.filter second).countP first := by
    rw [List.countP_filter]
    refine List.countP_congr fun other hother ↦ ?_
    rw [Bool.and_eq_true]
    exact ⟨fun hother' ↦ ⟨hother', himp other hother hother'⟩, And.left⟩
  calc
    rows.countP first = (rows.filter second).countP first := hfiltered
    _ < (rows.filter second).length :=
      List.countP_lt_length_iff.mpr ⟨row, List.mem_filter.mpr ⟨hrow, hsecond⟩, hfirst⟩
    _ = rows.countP second := List.countP_eq_length_filter.symm

/-! ### Keys -/

/-- The rows stand by ascending ids from one on, no two of them under one key. -/
structure KeyedTable (id : α → Int) (key : α → κ) (rows : List α) : Prop where
  ascending : (rows.map id).Pairwise (· < ·)
  positive : ∀ row ∈ rows, 1 ≤ id row
  keys : (rows.map key).Nodup

namespace KeyedTable

variable {id : α → Int} {key : α → κ} {rows : List α}

theorem nil : KeyedTable id key ([] : List α) where
  ascending := List.Pairwise.nil
  positive := by simp
  keys := List.nodup_nil

/-- A row under a key that is not in use is added with the next id. -/
theorem concat (htable : KeyedTable id key rows) {row : α} (hid : id row = nextId (rows.map id))
    (hkey : ∀ other ∈ rows, key other ≠ key row) : KeyedTable id key (rows ++ [row]) where
  ascending := by
    rw [List.map_append, List.map_singleton]
    refine List.pairwise_append.mpr ⟨htable.ascending, List.pairwise_singleton _ _, ?_⟩
    intro used hused added hadded
    rw [List.mem_singleton.mp hadded, hid]
    exact lt_nextId hused
  positive := by
    intro other hother
    rcases List.mem_append.mp hother with hold | hnew
    · exact htable.positive other hold
    · rw [List.mem_singleton.mp hnew, hid]
      exact one_le_nextId _
  keys := by
    rw [List.map_append, List.map_singleton]
    refine List.nodup_append.mpr ⟨htable.keys, List.nodup_singleton _, ?_⟩
    intro used hused added hadded
    obtain ⟨other, hother, rfl⟩ := List.mem_map.mp hused
    rw [List.mem_singleton.mp hadded]
    exact hkey other hother

/-- Rows may be amended in anything but their ids and keys. -/
theorem amendWhere (htable : KeyedTable id key rows) {test : α → Bool} {amend : α → α}
    (hid : ∀ row, id (amend row) = id row) (hkey : ∀ row, key (amend row) = key row) :
    KeyedTable id key (amendWhere test amend rows) where
  ascending := by
    rw [map_amendWhere hid]
    exact htable.ascending
  positive := by
    refine forall_mem_amendWhere htable.positive fun row _ hpositive ↦ ?_
    rw [hid]
    exact hpositive
  keys := by
    rw [map_amendWhere hkey]
    exact htable.keys

/-- No row stands twice. -/
theorem nodup (htable : KeyedTable id key rows) : rows.Nodup :=
  List.Nodup.of_map key htable.keys

/-- No id stands twice. -/
theorem nodup_ids (htable : KeyedTable id key rows) : (rows.map id).Nodup :=
  htable.ascending.imp fun hlt ↦ Int.ne_of_lt hlt

/-- An id names one row. -/
theorem eq_of_id_eq (htable : KeyedTable id key rows) {first second : α} (hfirst : first ∈ rows)
    (hsecond : second ∈ rows) (heq : id first = id second) : first = second :=
  List.inj_on_of_nodup_map htable.nodup_ids hfirst hsecond heq

/-- Some of the rows ascend by their ids. -/
theorem pairwise_filter (htable : KeyedTable id key rows) (part : α → Bool) :
    (rows.filter part).Pairwise fun left right ↦ id left < id right :=
  (List.pairwise_map.mp htable.ascending).filter part

/-- The ids of some of the rows are different. -/
theorem nodup_ids_filter (htable : KeyedTable id key rows) (part : α → Bool) :
    ((rows.filter part).map id).Nodup :=
  List.pairwise_map.mpr ((htable.pairwise_filter part).imp fun hlt ↦ Int.ne_of_lt hlt)

/-- A key names one row. -/
theorem eq_of_key_eq (htable : KeyedTable id key rows) {first second : α} (hfirst : first ∈ rows)
    (hsecond : second ∈ rows) (heq : key first = key second) : first = second :=
  List.inj_on_of_nodup_map htable.keys hfirst hsecond heq

end KeyedTable

/-! ### Growth -/

/-- The rows before are kept in their places, as far as a relation tells, and rows may follow. -/
inductive TableGrows (keeps : α → α → Prop) : List α → List α → Prop
  | added (rows : List α) : TableGrows keeps [] rows
  | kept {row amended : α} {before after : List α} (hkeeps : keeps row amended)
      (hrest : TableGrows keeps before after) :
      TableGrows keeps (row :: before) (amended :: after)

namespace TableGrows

variable {keeps : α → α → Prop} {before middle after : List α}

/-- Amending the rows of a table keeps them. -/
theorem of_forall₂ (hrows : List.Forall₂ keeps before after) : TableGrows keeps before after := by
  induction hrows with
  | nil => exact added []
  | cons hkeeps _ ih => exact kept hkeeps ih

/-- Amending rows keeps them when it keeps those that pass the test. -/
theorem amendWhere (hrefl : ∀ row, keeps row row) {test : α → Bool} {amend : α → α}
    (hamend : ∀ row, test row = true → keeps row (amend row)) (rows : List α) :
    TableGrows keeps rows (amendWhere test amend rows) := by
  refine of_forall₂ (List.forall₂_map_right_iff.mpr (List.forall₂_same.mpr ?_))
  intro row _
  split
  · rename_i htest
    exact hamend row htest
  · exact hrefl row

/-- Adding rows keeps those that are there. -/
theorem append (hrefl : ∀ row, keeps row row) (rows news : List α) :
    TableGrows keeps rows (rows ++ news) := by
  induction rows with
  | nil => exact added news
  | cons row rest ih => exact kept (hrefl row) ih

theorem refl (hrefl : ∀ row, keeps row row) (rows : List α) : TableGrows keeps rows rows := by
  simpa using append hrefl rows []

theorem trans (hfirst : TableGrows keeps before middle)
    (htrans : ∀ {first second third}, keeps first second → keeps second third → keeps first third)
    (hsecond : TableGrows keeps middle after) : TableGrows keeps before after := by
  induction hfirst generalizing after with
  | added => exact added after
  | kept hkeeps _ ih =>
    cases hsecond with
    | kept hlater hrest => exact kept (htrans hkeeps hlater) (ih hrest)

/-- Every row before is still there. -/
theorem exists_mem (hgrows : TableGrows keeps before after) {row : α} (hrow : row ∈ before) :
    ∃ amended ∈ after, keeps row amended := by
  induction hgrows with
  | added => cases hrow
  | @kept first amended _ rest hkeeps _ ih =>
    rcases List.mem_cons.mp hrow with rfl | hbefore
    · exact ⟨amended, List.mem_cons_self, hkeeps⟩
    · obtain ⟨found, hfound, hkept⟩ := ih hbefore
      exact ⟨found, List.mem_cons_of_mem amended hfound, hkept⟩

/-- The rows that pass a test become no fewer when a row that passes it goes on passing it. -/
theorem countP_le (hgrows : TableGrows keeps before after) {test : α → Bool}
    (htest : ∀ row amended, keeps row amended → test row = true → test amended = true) :
    before.countP test ≤ after.countP test := by
  induction hgrows with
  | added rows => exact Nat.zero_le _
  | @kept row amended _ _ hkeeps _ ih =>
    by_cases hrow : test row = true
    · rw [List.countP_cons_of_pos hrow, List.countP_cons_of_pos (htest row amended hkeeps hrow)]
      omega
    · rw [List.countP_cons_of_neg hrow]
      exact Nat.le_trans ih (List.sublist_cons_self amended _).countP_le

end TableGrows

end SymbolGraph.Store
