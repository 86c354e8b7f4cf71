import SymbolGraph.Proofs.Ingest.Locality

/-!
# Two files in either order

Storing a file comes to the same in a store whose ids are renamed (`matches_file`). When two files
are stored one after the other, neither sees the other one, so both come to the same in either
order, and the stores are the same when the ids of their new rows are exchanged (`diamond_files`,
`Diamond.isMatch`).
-/

set_option autoImplicit false
set_option relaxedAutoImplicit false

namespace SymbolGraph

open Store (ChangesOnly FileScope)
open Renaming (StorePart shift exchange shift_of_lt shift_of_le le_exchange shift_agreeOn_unchanged
  exchange_agreeOn_unchanged exchange_agreeOn_shift exchange_shift_agreeOn_unchanged)

namespace Store

variable {store : Store} {first second : FileScope}

/-- An id is that of a symbol of one file only. -/
theorem WellFormed.file_eq_of_id_eq (hstore : store.WellFormed) {left right : Symbol}
    (hleft : left ∈ store.symbolsOf first) (hright : right ∈ store.symbolsOf second)
    (hid : left.id = right.id) : first = second := by
  obtain ⟨hmem, hfirst⟩ := mem_symbolsOf_iff.mp hleft
  obtain ⟨hother, hsecond⟩ := mem_symbolsOf_iff.mp hright
  rw [← hfirst, ← hsecond, hstore.symbols.eq_of_id_eq hmem hother hid]

end Store

namespace Ingest

variable {projectId : Int} {path source : String} {store : Store}

/-! ### Storing a file in a renamed store -/

theorem wellFormed_attempt_file (hstore : store.WellFormed) :
    (Store.attempt (Ingest.file projectId path source) store).2.WellFormed :=
  (preserves_file Store.keptByWrites_wellFormed.toKeptByFileWrites projectId path source).attempt
    Store.keptByWrites_wellFormed.toIsPreorder store hstore

theorem changesOnly_attempt_file (projectId : Int) (path source : String) (store : Store) :
    ChangesOnly ⟨projectId, path⟩ store
      (Store.attempt (Ingest.file projectId path source) store).2 :=
  (changesOnly_file projectId path source).attempt (Store.isPreorder_changesOnly _) store

/-- A renamed store has the same rows of every file up to the renaming. -/
theorem mirrors_of_matches {rename : Renaming} {other : Store}
    (hmatches : store.Matches rename other) (file : FileScope) :
    Mirrors rename file store other where
  hasProject := by rw [Store.hasProject, hmatches.projects, Store.hasProject]
  symbols := hmatches.symbols file
  imports := hmatches.imports file
  calls := fun id _ ↦ hmatches.calls id
  fresh := by
    intro table id hid
    rw [hmatches.later table id hid, hmatches.next]
    omega

/-- Renamed stores stay so when corresponding changes are made to a file in both. -/
theorem matches_of_changesOnly {rename : Renaming} (hfaithful : rename.Faithful)
    {file : FileScope} {other later laterOther : Store} (hmatches : store.Matches rename other)
    (hchange : ChangesOnly file store later) (hchangeOther : ChangesOnly file other laterOther)
    (hmirrors : Mirrors rename file later laterOther) : later.Matches rename laterOther := by
  have hgrows := hchange.grows.next_le
  refine ⟨?_, ?_, ?_, ?_, ?_, ?_⟩
  · rw [hchange.projects, hchangeOther.projects, hmatches.projects]
  · intro part
    by_cases hpart : part = file
    · rw [hpart]
      exact hmirrors.symbols
    · rw [hchange.symbols part hpart, hchangeOther.symbols part hpart, hmatches.symbols]
  · intro part
    by_cases hpart : part = file
    · rw [hpart]
      exact hmirrors.imports
    · rw [hchange.imports part hpart, hchangeOther.imports part hpart, hmatches.imports]
  · intro id
    by_cases hstored : ∃ symbol ∈ later.symbolsOf file, symbol.id = id
    · exact hmirrors.calls id (Or.inl hstored)
    · have hnone : ∀ symbol ∈ later.symbolsOf file, symbol.id ≠ id := fun symbol hsymbol hid ↦
        hstored ⟨symbol, hsymbol, hid⟩
      rw [hchange.calls id hnone, hchangeOther.calls, hmatches.calls]
      rw [hmirrors.symbols]
      intro image himage hid
      obtain ⟨symbol, hsymbol, rfl⟩ := List.mem_map.mp himage
      exact hnone symbol hsymbol (hfaithful.injective .symbols hid)
  · -- the next id was yet to come before, so the renaming leaves it
    intro table
    have hlater := hmatches.later table _ (hgrows table)
    have hfresh := hmirrors.rename_next table
    omega
  · exact fun table id hid ↦ hmatches.later table id (Int.le_trans (hgrows table) hid)

/-- Storing a file comes to the same in a renamed store. -/
theorem matches_file {rename : Renaming} (hfaithful : rename.Faithful) {other : Store}
    (hmatches : store.Matches rename other) (projectId : Int) (path source : String) :
    let answer := Store.attempt (Ingest.file projectId path source) store
    let image := Store.attempt (Ingest.file projectId path source) other
    answer.1 = image.1 ∧ answer.2.Matches rename image.2 := by
  intro answer image
  obtain ⟨houtcome, hmirrors⟩ :=
    mirrors_file hfaithful (mirrors_of_matches hmatches ⟨projectId, path⟩) source
  exact ⟨houtcome, matches_of_changesOnly hfaithful hmatches
    (changesOnly_attempt_file projectId path source store)
    (changesOnly_attempt_file projectId path source other) hmirrors⟩

/-! ### One file next to another -/

/-- A file that was not changed has its rows, and what is added to it comes after what was added to
the other file. -/
theorem mirrors_shift {changed file : FileScope} {later : Store} (hstore : store.WellFormed)
    (hlater : later.WellFormed) (hchange : ChangesOnly changed store later)
    (hfile : file ≠ changed) : Mirrors (shift store later) file store later := by
  have hgrows := hchange.grows.next_le
  refine ⟨?_, ?_, ?_, ?_, ?_⟩
  · rw [Store.hasProject, hchange.projects, Store.hasProject]
  · rw [hchange.symbols file hfile]
    exact ((StorePart.symbolsOf file).map_change_of_unchanged hstore shift_agreeOn_unchanged).symm
  · rw [hchange.imports file hfile]
    exact ((StorePart.importsOf file).map_change_of_unchanged hstore shift_agreeOn_unchanged).symm
  · rintro id (⟨symbol, hsymbol, rfl⟩ | hyet)
    · have hid := Store.id_lt_next_of_mem_symbols (Store.mem_symbolsOf_iff.mp hsymbol).1
      have hkept : (store.callsOf symbol.id).map (shift store later).call =
          store.callsOf symbol.id :=
        (StorePart.callsOf symbol.id).map_change_of_unchanged hstore shift_agreeOn_unchanged
      rw [shift_of_lt hid, hkept]
      refine hchange.calls symbol.id fun other hother hsame ↦ hfile ?_
      rw [← hchange.symbols file hfile] at hsymbol
      exact hlater.file_eq_of_id_eq hsymbol hother hsame.symm
    · rw [shift_of_le hyet, hstore.callsOf_eq_nil hyet]
      have hle := hgrows .symbols
      exact hlater.callsOf_eq_nil (by omega)
  · exact fun table id hid ↦ shift_of_le hid

/-- Two files stored in either order, the store after each first one and after both. -/
structure Diamond (first second : FileScope) (start left right leftThen rightThen : Store) :
    Prop where
  different : first ≠ second
  startWellFormed : start.WellFormed
  leftWellFormed : left.WellFormed
  rightWellFormed : right.WellFormed
  leftThenWellFormed : leftThen.WellFormed
  rightThenWellFormed : rightThen.WellFormed
  stepLeft : ChangesOnly first start left
  stepRight : ChangesOnly second start right
  closeLeft : ChangesOnly second left leftThen
  closeRight : ChangesOnly first right rightThen
  mirrorsFirst : Mirrors (shift start right) first left rightThen
  mirrorsSecond : Mirrors (shift start left) second right leftThen

namespace Diamond

variable {first second : FileScope} {start left right leftThen rightThen : Store}
  (hdiamond : Diamond first second start left right leftThen rightThen)
include hdiamond

theorem symm : Diamond second first start right left rightThen leftThen where
  different := hdiamond.different.symm
  startWellFormed := hdiamond.startWellFormed
  leftWellFormed := hdiamond.rightWellFormed
  rightWellFormed := hdiamond.leftWellFormed
  leftThenWellFormed := hdiamond.rightThenWellFormed
  rightThenWellFormed := hdiamond.leftThenWellFormed
  stepLeft := hdiamond.stepRight
  stepRight := hdiamond.stepLeft
  closeLeft := hdiamond.closeRight
  closeRight := hdiamond.closeLeft
  mirrorsFirst := hdiamond.mirrorsSecond
  mirrorsSecond := hdiamond.mirrorsFirst

/-- The rows of both files add up. -/
theorem next_rightThen (table : Store.Table) : rightThen.next table =
    left.next table + (right.next table - start.next table) := by
  rw [← hdiamond.mirrorsFirst.rename_next table]
  exact shift_of_le (hdiamond.stepLeft.grows.next_le table)

theorem next_leftThen (table : Store.Table) : leftThen.next table =
    left.next table + (right.next table - start.next table) := by
  have hnext := hdiamond.symm.next_rightThen table
  omega

theorem exchange_bijective (table : Store.Table) :
    Function.Bijective (exchange start left right table) :=
  Renaming.exchange_bijective hdiamond.stepLeft.grows.next_le hdiamond.stepRight.grows.next_le table

theorem exchange_faithful : (exchange start left right).Faithful where
  injective := fun table ↦ (hdiamond.exchange_bijective table).injective
  zero := if_pos (start.next_pos .symbols)

/-! #### Symbols and imports -/

section Parts

variable {ρ : Type} (part : StorePart ρ)

/-- What the first file left, and the second too, is where it comes after the second. -/
theorem rows_of_first
    (hmirrors : part.rows rightThen = (part.rows left).map (part.change (shift start right)))
    (hclose : part.rows leftThen = part.rows left) :
    part.rows rightThen = (part.rows leftThen).map (part.change (exchange start left right)) := by
  rw [hmirrors, hclose]
  exact (part.map_change_congr hdiamond.leftWellFormed exchange_agreeOn_shift).symm

/-- What the second file left is back where it comes before the first. -/
theorem rows_of_second
    (hmirrors : part.rows leftThen = (part.rows right).map (part.change (shift start left)))
    (hclose : part.rows rightThen = part.rows right) :
    part.rows rightThen = (part.rows leftThen).map (part.change (exchange start left right)) := by
  rw [hmirrors, hclose]
  exact (part.map_exchange_map_shift hdiamond.rightWellFormed
    hdiamond.stepLeft.grows.next_le).symm

/-- What neither file changed stays. -/
theorem rows_of_neither (hleft : part.rows leftThen = part.rows start)
    (hright : part.rows rightThen = part.rows start) :
    part.rows rightThen = (part.rows leftThen).map (part.change (exchange start left right)) := by
  rw [hleft, hright]
  exact (part.map_change_of_unchanged hdiamond.startWellFormed exchange_agreeOn_unchanged).symm

end Parts

theorem symbols (file : FileScope) : rightThen.symbolsOf file =
    (leftThen.symbolsOf file).map (exchange start left right).symbol := by
  by_cases hfirst : file = first
  · rw [hfirst]
    exact hdiamond.rows_of_first (.symbolsOf first) hdiamond.mirrorsFirst.symbols
      (hdiamond.closeLeft.symbols first hdiamond.different)
  by_cases hsecond : file = second
  · rw [hsecond]
    exact hdiamond.rows_of_second (.symbolsOf second) hdiamond.mirrorsSecond.symbols
      (hdiamond.closeRight.symbols second hdiamond.different.symm)
  · exact hdiamond.rows_of_neither (.symbolsOf file)
      ((hdiamond.closeLeft.symbols file hsecond).trans (hdiamond.stepLeft.symbols file hfirst))
      ((hdiamond.closeRight.symbols file hfirst).trans (hdiamond.stepRight.symbols file hsecond))

theorem imports (file : FileScope) : rightThen.importsOf file =
    (leftThen.importsOf file).map (exchange start left right).imported := by
  by_cases hfirst : file = first
  · rw [hfirst]
    exact hdiamond.rows_of_first (.importsOf first) hdiamond.mirrorsFirst.imports
      (hdiamond.closeLeft.imports first hdiamond.different)
  by_cases hsecond : file = second
  · rw [hsecond]
    exact hdiamond.rows_of_second (.importsOf second) hdiamond.mirrorsSecond.imports
      (hdiamond.closeRight.imports second hdiamond.different.symm)
  · exact hdiamond.rows_of_neither (.importsOf file)
      ((hdiamond.closeLeft.imports file hsecond).trans (hdiamond.stepLeft.imports file hfirst))
      ((hdiamond.closeRight.imports file hfirst).trans (hdiamond.stepRight.imports file hsecond))

/-! #### Calls -/

/-- The second file leaves the calls from symbols of the first. -/
theorem callsOf_leftThen {symbol : Symbol} (hsymbol : symbol ∈ left.symbolsOf first) :
    leftThen.callsOf symbol.id = left.callsOf symbol.id := by
  refine hdiamond.closeLeft.calls symbol.id fun other hother hid ↦ hdiamond.different ?_
  rw [← hdiamond.closeLeft.symbols first hdiamond.different] at hsymbol
  exact hdiamond.leftThenWellFormed.file_eq_of_id_eq hsymbol hother hid.symm

theorem calls_of_first {symbol : Symbol} (hsymbol : symbol ∈ left.symbolsOf first) :
    rightThen.callsOf (exchange start left right .symbols symbol.id) =
      (leftThen.callsOf symbol.id).map (exchange start left right).call := by
  have hid := Store.id_lt_next_of_mem_symbols (Store.mem_symbolsOf_iff.mp hsymbol).1
  rw [exchange_agreeOn_shift .symbols symbol.id hid,
    hdiamond.mirrorsFirst.calls symbol.id (Or.inl ⟨symbol, hsymbol, rfl⟩),
    hdiamond.callsOf_leftThen hsymbol]
  exact ((StorePart.callsOf symbol.id).map_change_congr hdiamond.leftWellFormed
    exchange_agreeOn_shift).symm

theorem calls_of_second {symbol : Symbol} (hsymbol : symbol ∈ leftThen.symbolsOf second) :
    rightThen.callsOf (exchange start left right .symbols symbol.id) =
      (leftThen.callsOf symbol.id).map (exchange start left right).call := by
  have hgrows := hdiamond.stepLeft.grows.next_le
  rw [hdiamond.mirrorsSecond.symbols] at hsymbol
  obtain ⟨before, hbefore, rfl⟩ := List.mem_map.mp hsymbol
  have hid := Store.id_lt_next_of_mem_symbols (Store.mem_symbolsOf_iff.mp hbefore).1
  have hback :
      exchange start left right .symbols (shift start left .symbols before.id) = before.id :=
    exchange_shift_agreeOn_unchanged hgrows .symbols before.id hid
  change rightThen.callsOf
      (exchange start left right .symbols (shift start left .symbols before.id)) =
    (leftThen.callsOf (shift start left .symbols before.id)).map (exchange start left right).call
  rw [hback, hdiamond.symm.callsOf_leftThen hbefore,
    hdiamond.mirrorsSecond.calls before.id (Or.inl ⟨before, hbefore, rfl⟩)]
  exact ((StorePart.callsOf before.id).map_exchange_map_shift hdiamond.rightWellFormed hgrows).symm

/-- Neither file changes the calls from symbols of other files. -/
theorem calls_of_neither {id : Int} (hfirst : ∀ symbol ∈ left.symbolsOf first, symbol.id ≠ id)
    (hsecond : ∀ symbol ∈ leftThen.symbolsOf second, symbol.id ≠ id) :
    leftThen.callsOf id = start.callsOf id :=
  (hdiamond.closeLeft.calls id hsecond).trans (hdiamond.stepLeft.calls id hfirst)

theorem calls (id : Int) : rightThen.callsOf (exchange start left right .symbols id) =
    (leftThen.callsOf id).map (exchange start left right).call := by
  by_cases hfirst : ∃ symbol ∈ left.symbolsOf first, symbol.id = id
  · obtain ⟨symbol, hsymbol, rfl⟩ := hfirst
    exact hdiamond.calls_of_first hsymbol
  by_cases hsecond : ∃ symbol ∈ leftThen.symbolsOf second, symbol.id = id
  · obtain ⟨symbol, hsymbol, rfl⟩ := hsecond
    exact hdiamond.calls_of_second hsymbol
  · have hinjective := (hdiamond.exchange_bijective .symbols).injective
    have hleft : leftThen.callsOf id = start.callsOf id :=
      hdiamond.calls_of_neither (fun symbol hsymbol hid ↦ hfirst ⟨symbol, hsymbol, hid⟩)
        fun symbol hsymbol hid ↦ hsecond ⟨symbol, hsymbol, hid⟩
    have hright : rightThen.callsOf (exchange start left right .symbols id) =
        start.callsOf (exchange start left right .symbols id) := by
      refine hdiamond.symm.calls_of_neither (fun image himage hid ↦ ?_) fun image himage hid ↦ ?_
      · rw [← hdiamond.closeRight.symbols second hdiamond.different.symm,
          hdiamond.symbols] at himage
        obtain ⟨symbol, hsymbol, rfl⟩ := List.mem_map.mp himage
        exact hsecond ⟨symbol, hsymbol, hinjective hid⟩
      · rw [hdiamond.symbols, hdiamond.closeLeft.symbols first hdiamond.different] at himage
        obtain ⟨symbol, hsymbol, rfl⟩ := List.mem_map.mp himage
        exact hfirst ⟨symbol, hsymbol, hinjective hid⟩
    rw [hleft, hright]
    rcases Int.lt_or_le id (start.next .symbols) with hold | hyet
    · rw [show exchange start left right .symbols id = id from
        exchange_agreeOn_unchanged .symbols id hold]
      exact ((StorePart.callsOf id).map_change_of_unchanged hdiamond.startWellFormed
        exchange_agreeOn_unchanged).symm
    · -- no such symbol is stored in any of the stores
      have hgrowsLeft := hdiamond.stepLeft.grows.next_le
      have hgrowsRight := hdiamond.stepRight.grows.next_le
      rw [hdiamond.startWellFormed.callsOf_eq_nil hyet, hdiamond.startWellFormed.callsOf_eq_nil
        (le_exchange hgrowsLeft hgrowsRight hyet)]
      rfl

/-- Exchanging the ids of the new rows makes one order of the files the other. -/
theorem isMatch : leftThen.Matches (exchange start left right) rightThen where
  projects := by
    rw [hdiamond.closeRight.projects, hdiamond.stepRight.projects, hdiamond.closeLeft.projects,
      hdiamond.stepLeft.projects]
  symbols := hdiamond.symbols
  imports := hdiamond.imports
  calls := hdiamond.calls
  next := fun table ↦ (hdiamond.next_rightThen table).trans (hdiamond.next_leftThen table).symm
  later := by
    intro table id hid
    rw [hdiamond.next_leftThen] at hid
    have hle := hdiamond.stepLeft.grows.next_le table
    have hleRight := hdiamond.stepRight.grows.next_le table
    unfold exchange
    split_ifs <;> omega

end Diamond

/-- Files of different paths come to the same outcomes in either order. -/
theorem diamond_files (hstore : store.WellFormed) (projectId : Int) {path other : String}
    (hpaths : path ≠ other) (source text : String) :
    let first := Store.attempt (Ingest.file projectId path source)
    let second := Store.attempt (Ingest.file projectId other text)
    (first store).1 = (first (second store).2).1 ∧
      (second store).1 = (second (first store).2).1 ∧
      Diamond ⟨projectId, path⟩ ⟨projectId, other⟩ store (first store).2 (second store).2
        (second (first store).2).2 (first (second store).2).2 := by
  intro first second
  have hdifferent : (⟨projectId, path⟩ : FileScope) ≠ ⟨projectId, other⟩ := fun heq ↦
    hpaths (congrArg FileScope.filePath heq)
  have hleft : (first store).2.WellFormed := wellFormed_attempt_file hstore
  have hright : (second store).2.WellFormed := wellFormed_attempt_file hstore
  have hstepLeft : ChangesOnly ⟨projectId, path⟩ store (first store).2 :=
    changesOnly_attempt_file projectId path source store
  have hstepRight : ChangesOnly ⟨projectId, other⟩ store (second store).2 :=
    changesOnly_attempt_file projectId other text store
  obtain ⟨hfirst, hmirrorsFirst⟩ :=
    mirrors_file (Renaming.shift_faithful hstepRight.grows.next_le)
      (mirrors_shift hstore hright hstepRight hdifferent) source
  obtain ⟨hsecond, hmirrorsSecond⟩ :=
    mirrors_file (Renaming.shift_faithful hstepLeft.grows.next_le)
      (mirrors_shift hstore hleft hstepLeft hdifferent.symm) text
  exact ⟨hfirst, hsecond, hdifferent, hstore, hleft, hright, wellFormed_attempt_file hleft,
    wellFormed_attempt_file hright, hstepLeft, hstepRight,
    changesOnly_attempt_file projectId other text _,
    changesOnly_attempt_file projectId path source _, hmirrorsFirst, hmirrorsSecond⟩

end Ingest

end SymbolGraph
