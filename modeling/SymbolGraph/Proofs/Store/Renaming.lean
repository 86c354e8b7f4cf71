import Mathlib.Logic.Function.Basic
import Mathlib.Tactic.SplitIfs
import SymbolGraph.Proofs.Store.Slice

/-!
# Renaming ids

The ids of rows depend on the order in which the rows were written. A `Renaming` gives other numbers
to the ids of each table, wherever they stand (`Renaming.symbol`, `Renaming.imported`,
`Renaming.call`). `Store.Matches` says that a store is another one with its ids renamed, file by
file, so that the rows of a file come in the same order in both; the tables as a whole are then
reorderings of one another (`Matches.isRenamed`).

A `Renaming.StorePart` is the symbols of a file, its imports, or the calls from a symbol: what holds
of renaming any of them is told once.

Two renamings are told by the rows that were added to a store: `shift` moves the ids of the rows
that are yet to come to where they come in a larger store, and `exchange` changes the places of the
rows that were added first and of those that were added next.
-/

set_option autoImplicit false
set_option relaxedAutoImplicit false

namespace SymbolGraph

open Store (Table)

/-- Other numbers for the ids of each table. -/
abbrev Renaming := Table → Int → Int

namespace Renaming

/-- The symbol with its ids renamed. -/
def symbol (rename : Renaming) (symbol : Symbol) : Symbol :=
  { symbol with
    id := rename .symbols symbol.id
    parentId := symbol.parentId.map (rename .symbols)
    parentKey := rename .symbols symbol.parentKey }

/-- The import with its ids renamed. -/
def imported (rename : Renaming) (entry : Import) : Import :=
  { entry with
    id := rename .imports entry.id
    target := entry.target.map (rename .symbols) }

/-- The call with its ids renamed. -/
def call (rename : Renaming) (call : Call) : Call :=
  { call with
    id := rename .calls call.id
    callerId := rename .symbols call.callerId
    target := call.target.map (rename .symbols) }

/-- Different ids stay different, and no parent stays no parent. -/
structure Faithful (rename : Renaming) : Prop where
  injective : ∀ table, Function.Injective (rename table)
  zero : rename .symbols 0 = 0

/-! ### Renamings one after the other -/

/-- The ids as they are. -/
def unchanged : Renaming :=
  fun _ id ↦ id

/-- One renaming after another. -/
def andThen (first second : Renaming) : Renaming :=
  fun table id ↦ second table (first table id)

theorem map_unchanged (id : Option Int) : id.map (unchanged .symbols) = id :=
  Option.map_id'

/-! ### Renamings that agree on a store -/

/-- The renamings give the same numbers to all ids of the store. -/
def AgreeOn (store : Store) (first second : Renaming) : Prop :=
  ∀ table id, id < store.next table → first table id = second table id

section AgreeOn

variable {store : Store} (hstore : store.WellFormed) {first second : Renaming}
  (hagree : AgreeOn store first second)
include hstore hagree

omit hstore in
theorem map_eq_of_agreeOn {id : Option Int} (hid : ∀ value, id = some value →
    store.hasSymbol value = true) : id.map (first .symbols) = id.map (second .symbols) :=
  Option.map_congr fun value hvalue ↦
    hagree .symbols value (Store.id_lt_next_of_hasSymbol (hid value hvalue))

theorem symbol_eq_of_agreeOn {symbol : Symbol} (hsymbol : symbol ∈ store.symbols) :
    first.symbol symbol = second.symbol symbol := by
  have hparent := (hstore.anchoredSymbols symbol hsymbol).2
  have hkey : symbol.parentKey < store.next .symbols := by
    rw [hstore.parentKey symbol hsymbol]
    cases hsome : symbol.parentId with
    | none => exact store.next_pos .symbols
    | some parentId => exact Store.id_lt_next_of_hasSymbol (hparent parentId hsome)
  unfold Renaming.symbol
  rw [hagree .symbols _ (Store.id_lt_next_of_mem_symbols hsymbol), hagree .symbols _ hkey,
    map_eq_of_agreeOn hagree hparent]

theorem imported_eq_of_agreeOn {entry : Import} (hentry : entry ∈ store.imports) :
    first.imported entry = second.imported entry := by
  unfold imported
  rw [hagree .imports _ (Store.id_lt_next_of_mem_imports hentry),
    map_eq_of_agreeOn hagree (hstore.anchoredImports entry hentry).2]

theorem call_eq_of_agreeOn {call : Call} (hcall : call ∈ store.calls) :
    first.call call = second.call call := by
  obtain ⟨-, hcaller, htarget⟩ := hstore.anchoredCalls call hcall
  unfold Renaming.call
  rw [hagree .calls _ (Store.id_lt_next_of_mem_calls hcall),
    hagree .symbols _ (Store.id_lt_next_of_hasSymbol hcaller),
    map_eq_of_agreeOn hagree htarget]

end AgreeOn

/-! ### Parts of a store -/

/-- A part of a store, with what it is to rename its rows. -/
structure StorePart (ρ : Type) where
  rows : Store → List ρ
  change : Renaming → ρ → ρ
  change_unchanged : ∀ row, change unchanged row = row
  change_andThen : ∀ first second row,
    change second (change first row) = change (first.andThen second) row
  change_eq_of_agreeOn : ∀ {store : Store}, store.WellFormed → ∀ {first second : Renaming},
    AgreeOn store first second → ∀ row ∈ rows store, change first row = change second row

namespace StorePart

/-- The symbols of a file. -/
def symbolsOf (file : Store.FileScope) : StorePart Symbol where
  rows := (·.symbolsOf file)
  change := Renaming.symbol
  change_unchanged := fun symbol ↦ by
    unfold Renaming.symbol
    rw [map_unchanged]
    rfl
  change_andThen := fun first second symbol ↦ by
    simp only [Renaming.symbol, Option.map_map]
    rfl
  change_eq_of_agreeOn := fun hstore _ _ hagree _ hsymbol ↦
    symbol_eq_of_agreeOn hstore hagree (Store.mem_symbolsOf_iff.mp hsymbol).1

/-- The imports of a file. -/
def importsOf (file : Store.FileScope) : StorePart Import where
  rows := (·.importsOf file)
  change := imported
  change_unchanged := fun entry ↦ by
    unfold imported
    rw [map_unchanged]
    rfl
  change_andThen := fun first second entry ↦ by
    simp only [imported, Option.map_map]
    rfl
  change_eq_of_agreeOn := fun hstore _ _ hagree _ hentry ↦
    imported_eq_of_agreeOn hstore hagree (Store.mem_importsOf_iff.mp hentry).1

/-- The calls from a symbol. -/
def callsOf (callerId : Int) : StorePart Call where
  rows := (·.callsOf callerId)
  change := Renaming.call
  change_unchanged := fun call ↦ by
    unfold Renaming.call
    rw [map_unchanged]
    rfl
  change_andThen := fun first second call ↦ by
    simp only [Renaming.call, Option.map_map]
    rfl
  change_eq_of_agreeOn := fun hstore _ _ hagree _ hcall ↦
    call_eq_of_agreeOn hstore hagree (Store.mem_callsOf_iff.mp hcall).1

variable {ρ : Type} (part : StorePart ρ) {store : Store} {first second rename : Renaming}

theorem map_change_unchanged (rows : List ρ) : rows.map (part.change unchanged) = rows :=
  (List.map_congr_left fun row _ ↦ part.change_unchanged row).trans (List.map_id rows)

theorem map_change_map_change (first second : Renaming) (rows : List ρ) :
    (rows.map (part.change first)).map (part.change second) =
      rows.map (part.change (first.andThen second)) := by
  rw [List.map_map]
  exact List.map_congr_left fun row _ ↦ part.change_andThen first second row

/-- Renamings that agree on a store do the same to its rows. -/
theorem map_change_congr (hstore : store.WellFormed) (hagree : AgreeOn store first second) :
    (part.rows store).map (part.change first) = (part.rows store).map (part.change second) :=
  List.map_congr_left (part.change_eq_of_agreeOn hstore hagree)

/-- What leaves the ids of a store leaves its rows. -/
theorem map_change_of_unchanged (hstore : store.WellFormed)
    (hagree : AgreeOn store rename unchanged) :
    (part.rows store).map (part.change rename) = part.rows store :=
  (part.map_change_congr hstore hagree).trans (part.map_change_unchanged _)

end StorePart

/-! ### Rows that are added -/

/-- The ids of the store as they are, and those of rows that are yet to come moved to where they
come in another store. -/
def shift (store other : Store) : Renaming :=
  fun table id ↦
    if id < store.next table then id else id + (other.next table - store.next table)

/-- The places of the rows that the first and the second store have in addition to a common one,
when one after the other is added, changed for each other. -/
def exchange (common first second : Store) : Renaming :=
  fun table id ↦
    if id < common.next table then id
    else if id < first.next table then id + (second.next table - common.next table)
    else if id < first.next table + (second.next table - common.next table) then
      id - (first.next table - common.next table)
    else id

section Added

variable {common first second : Store}

theorem shift_faithful (hgrows : ∀ table, common.next table ≤ first.next table) :
    (shift common first).Faithful where
  injective := by
    intro table left right heq
    have hle := hgrows table
    unfold shift at heq
    split_ifs at heq <;> omega
  zero := if_pos (common.next_pos .symbols)

/-- Exchanging back gives the ids back. -/
theorem exchange_exchange (hfirst : ∀ table, common.next table ≤ first.next table)
    (hsecond : ∀ table, common.next table ≤ second.next table) (table : Table) (id : Int) :
    exchange common second first table (exchange common first second table id) = id := by
  have hleFirst := hfirst table
  have hleSecond := hsecond table
  unfold exchange
  split_ifs <;> omega

theorem exchange_bijective (hfirst : ∀ table, common.next table ≤ first.next table)
    (hsecond : ∀ table, common.next table ≤ second.next table) (table : Table) :
    Function.Bijective (exchange common first second table) :=
  Function.bijective_iff_has_inverse.mpr ⟨exchange common second first table,
    exchange_exchange hfirst hsecond table, exchange_exchange hsecond hfirst table⟩

/-- What was yet to come is yet to come. -/
theorem le_exchange (hfirst : ∀ table, common.next table ≤ first.next table)
    (hsecond : ∀ table, common.next table ≤ second.next table) {table : Table} {id : Int}
    (hid : common.next table ≤ id) : common.next table ≤ exchange common first second table id := by
  have hleFirst := hfirst table
  have hleSecond := hsecond table
  unfold exchange
  split_ifs <;> omega

theorem shift_of_lt {table : Table} {id : Int} (hid : id < common.next table) :
    shift common first table id = id :=
  if_pos hid

theorem shift_of_le {table : Table} {id : Int} (hid : common.next table ≤ id) :
    shift common first table id = id + (first.next table - common.next table) :=
  if_neg (Int.not_lt.mpr hid)

/-- Shifting leaves the ids of the common store, and so does exchanging. -/
theorem shift_agreeOn_unchanged : AgreeOn common (shift common first) unchanged :=
  fun _ _ hid ↦ if_pos hid

theorem exchange_agreeOn_unchanged : AgreeOn common (exchange common first second) unchanged :=
  fun _ _ hid ↦ if_pos hid

/-- Exchanging takes the rows that were added first to where they come in the second store. -/
theorem exchange_agreeOn_shift :
    AgreeOn first (exchange common first second) (shift common second) := by
  intro table id hid
  unfold exchange shift
  split_ifs
  · rfl
  · rfl

/-- Exchanging takes the rows that were added next back to where they come in the second store. -/
theorem exchange_shift_agreeOn_unchanged (hgrows : ∀ table, common.next table ≤ first.next table) :
    AgreeOn second ((shift common first).andThen (exchange common first second)) unchanged := by
  intro table id hid
  have hle := hgrows table
  unfold andThen exchange shift unchanged
  split_ifs <;> omega

/-- Rows that were added next are back where they come in the second store. -/
theorem StorePart.map_exchange_map_shift {ρ : Type} (part : StorePart ρ)
    (hsecond : second.WellFormed) (hgrows : ∀ table, common.next table ≤ first.next table) :
    ((part.rows second).map (part.change (shift common first))).map
      (part.change (exchange common first second)) = part.rows second := by
  rw [part.map_change_map_change]
  exact part.map_change_of_unchanged hsecond (exchange_shift_agreeOn_unchanged hgrows)

end Added

end Renaming

namespace Store

open Renaming (StorePart)

/-! ### Stores that differ in their ids -/

/-- The other store is this one with its ids renamed: file by file, the rows are the same in the
same order. Both are at the same next ids, and the renaming leaves the ids that are yet to come. -/
structure Matches (rename : Renaming) (store other : Store) : Prop where
  projects : other.projects = store.projects
  symbols : ∀ file, other.symbolsOf file = (store.symbolsOf file).map rename.symbol
  imports : ∀ file, other.importsOf file = (store.importsOf file).map rename.imported
  calls : ∀ callerId,
    other.callsOf (rename .symbols callerId) = (store.callsOf callerId).map rename.call
  next : ∀ table, other.next table = store.next table
  later : ∀ table id, store.next table ≤ id → rename table id = id

theorem Matches.refl (store : Store) : store.Matches .unchanged store where
  projects := rfl
  symbols := fun file ↦ ((StorePart.symbolsOf file).map_change_unchanged _).symm
  imports := fun file ↦ ((StorePart.importsOf file).map_change_unchanged _).symm
  calls := fun callerId ↦ ((StorePart.callsOf callerId).map_change_unchanged _).symm
  next := fun _ ↦ rfl
  later := fun _ _ _ ↦ rfl

theorem Matches.andThen {first second third : Store} {rename again : Renaming}
    (hfirst : first.Matches rename second) (hsecond : second.Matches again third) :
    first.Matches (rename.andThen again) third where
  projects := hsecond.projects.trans hfirst.projects
  symbols := fun file ↦ by
    rw [hsecond.symbols, hfirst.symbols]
    exact (StorePart.symbolsOf file).map_change_map_change rename again _
  imports := fun file ↦ by
    rw [hsecond.imports, hfirst.imports]
    exact (StorePart.importsOf file).map_change_map_change rename again _
  calls := fun callerId ↦ by
    rw [Renaming.andThen, hsecond.calls, hfirst.calls]
    exact (StorePart.callsOf callerId).map_change_map_change rename again _
  next := fun table ↦ (hsecond.next table).trans (hfirst.next table)
  later := by
    intro table id hid
    rw [Renaming.andThen, hfirst.later table id hid]
    exact hsecond.later table id (Int.le_trans (Int.le_of_eq (hfirst.next table)) hid)

/-- The other store is this one with its ids renamed, its rows in any order. -/
structure IsRenamed (rename : Renaming) (store other : Store) : Prop where
  projects : other.projects = store.projects
  symbols : other.symbols.Perm (store.symbols.map rename.symbol)
  imports : other.imports.Perm (store.imports.map rename.imported)
  calls : other.calls.Perm (store.calls.map rename.call)

/-- Tables that agree part by part are reorderings of one another. -/
theorem perm_map_of_parts {α κ : Type} [DecidableEq κ] {key : α → κ} (place : κ → κ)
    {change : α → α} {rows others : List α} (hrows : (rows.map change).Nodup)
    (hothers : others.Nodup)
    (hplace : ∀ other ∈ others, ∃ part, place part = key other)
    (hparts : ∀ part, others.filter (fun other ↦ key other = place part) =
      (rows.filter fun row ↦ key row = part).map change) : others.Perm (rows.map change) := by
  refine (List.perm_ext_iff_of_nodup hothers hrows).mpr fun other ↦
    ⟨fun hother ↦ ?_, fun hother ↦ ?_⟩
  · obtain ⟨part, hpart⟩ := hplace other hother
    have hmem : other ∈ others.filter fun other ↦ key other = place part :=
      List.mem_filter.mpr ⟨hother, decide_eq_true hpart.symm⟩
    rw [hparts] at hmem
    obtain ⟨row, hrow, rfl⟩ := List.mem_map.mp hmem
    exact List.mem_map_of_mem (List.mem_filter.mp hrow).1
  · obtain ⟨row, hrow, rfl⟩ := List.mem_map.mp hother
    have hmem : change row ∈ (rows.filter fun other ↦ key other = key row).map change :=
      List.mem_map_of_mem (List.mem_filter.mpr ⟨hrow, decide_eq_true rfl⟩)
    rw [← hparts] at hmem
    exact (List.mem_filter.mp hmem).1

/-- Renamed rows are different when their ids are. -/
theorem nodup_map_of_ids {α κ : Type} {id : α → Int} {key : α → κ} {rows : List α} {change : α → α}
    {newId : Int → Int} (htable : KeyedTable id key rows) (hinjective : Function.Injective newId)
    (hid : ∀ row, id (change row) = newId (id row)) : (rows.map change).Nodup := by
  refine List.Nodup.of_map id ?_
  have hids : (rows.map change).map id = (rows.map id).map newId := by
    rw [List.map_map, List.map_map]
    exact List.map_congr_left fun row _ ↦ hid row
  rw [hids]
  exact List.Nodup.map hinjective htable.nodup_ids

theorem Matches.isRenamed {rename : Renaming} {store other : Store}
    (hmatches : store.Matches rename other) (hfaithful : rename.Faithful)
    (hstore : store.WellFormed) (hother : other.WellFormed) : store.IsRenamed rename other := by
  have hsymbols : other.symbols.Perm (store.symbols.map rename.symbol) :=
    perm_map_of_parts id
      (nodup_map_of_ids hstore.symbols (hfaithful.injective .symbols) fun _ ↦ rfl)
      hother.symbols.nodup (fun symbol _ ↦ ⟨symbol.file, rfl⟩) hmatches.symbols
  have himports : other.imports.Perm (store.imports.map rename.imported) :=
    perm_map_of_parts id
      (nodup_map_of_ids hstore.imports (hfaithful.injective .imports) fun _ ↦ rfl)
      hother.imports.nodup (fun entry _ ↦ ⟨entry.file, rfl⟩) hmatches.imports
  refine ⟨hmatches.projects, hsymbols, himports, ?_⟩
  refine perm_map_of_parts (rename .symbols)
    (nodup_map_of_ids hstore.calls (hfaithful.injective .calls) fun _ ↦ rfl)
    hother.calls.nodup (fun call hcall ↦ ?_) hmatches.calls
  -- the caller is stored, so it is a renamed one
  obtain ⟨caller, hcaller, hid⟩ := hasSymbol_eq_true_iff.mp (hother.anchoredCalls call hcall).2.1
  obtain ⟨symbol, -, rfl⟩ := List.mem_map.mp (hsymbols.mem_iff.mp hcaller)
  exact ⟨symbol.id, hid⟩

end Store

end SymbolGraph
