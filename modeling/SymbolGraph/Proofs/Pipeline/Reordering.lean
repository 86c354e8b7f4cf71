import SymbolGraph.Proofs.Ingest.Exchange
import SymbolGraph.Proofs.Pipeline.Run
import SymbolGraph.Proofs.Resolution.Renaming

/-!
# The order of files does not matter

Files of different paths that are ingested in another order come to the same outcomes, and to the
same store up to the ids of new rows (`files_perm`): two neighbours may change places
(`diamond_files`), and what comes after them comes to the same in a renamed store (`matches_files`).
As linking a renamed store gives the renamed store, whole runs come to the same
(`run_perm_storeAfter`).
-/

set_option autoImplicit false
set_option relaxedAutoImplicit false

namespace SymbolGraph

/-! ### Renaming new ids -/

/-- Other numbers for ids that are not in use yet: each id gets a number of its own, and those in
use keep theirs. -/
structure Renaming.OfNewIds (rename : Renaming) (store : Store) : Prop where
  bijective : ∀ table, Function.Bijective (rename table)
  kept : ∀ table id, id < store.next table → rename table id = id

namespace Renaming.OfNewIds

variable {store : Store} {rename again : Renaming}

theorem unchanged (store : Store) : Renaming.unchanged.OfNewIds store where
  bijective := fun _ ↦ Function.bijective_id
  kept := fun _ _ _ ↦ rfl

theorem andThen (hfirst : rename.OfNewIds store) (hsecond : again.OfNewIds store) :
    (rename.andThen again).OfNewIds store where
  bijective := fun table ↦ (hsecond.bijective table).comp (hfirst.bijective table)
  kept := fun table id hid ↦ by
    rw [Renaming.andThen, hfirst.kept table id hid, hsecond.kept table id hid]

/-- What is not in use later is not in use before. -/
theorem of_grows {later : Store} (hlater : rename.OfNewIds later) (hgrows : store.Grows later) :
    rename.OfNewIds store where
  bijective := hlater.bijective
  kept := fun table id hid ↦ hlater.kept table id (Int.lt_of_lt_of_le hid (hgrows.next_le table))

theorem faithful (hrename : rename.OfNewIds store) : rename.Faithful where
  injective := fun table ↦ (hrename.bijective table).injective
  zero := hrename.kept .symbols 0 (store.next_pos .symbols)

end Renaming.OfNewIds

namespace Ingest

variable {store : Store} {projectId : Int}

/-! ### Ingesting files in another order -/

/-- Ingesting files comes to the same in a renamed store. -/
theorem matches_files {rename : Renaming} (hfaithful : rename.Faithful) {other : Store}
    (hmatches : store.Matches rename other) (projectId : Int) (texts : List SourceText) :
    (files projectId texts store).1 = (files projectId texts other).1 ∧
      (files projectId texts store).2.Matches rename (files projectId texts other).2 := by
  induction texts generalizing store other with
  | nil => exact ⟨rfl, hmatches⟩
  | cons text rest ih =>
    obtain ⟨houtcome, hnext⟩ := matches_file hfaithful hmatches projectId text.path text.source
    obtain ⟨houtcomes, hlast⟩ := ih hnext
    exact ⟨List.cons_eq_cons.mpr ⟨houtcome, houtcomes⟩, hlast⟩

/-- Ingesting files of different paths in another order comes to the same outcome for each file, and
to the same store up to the ids of new rows. -/
theorem files_perm (hstore : store.WellFormed) (projectId : Int) {texts others : List SourceText}
    (hperm : texts.Perm others) (hpaths : (texts.map (·.path)).Nodup) :
    let first := files projectId texts store
    let second := files projectId others store
    (texts.zip first.1).Perm (others.zip second.1) ∧
      ∃ rename : Renaming, rename.OfNewIds store ∧ first.2.Matches rename second.2 := by
  induction hperm generalizing store with
  | nil => exact ⟨.nil, .unchanged, .unchanged store, .refl store⟩
  | cons text hrest ih =>
    have hnext : (Store.attempt (file projectId text.path text.source) store).2.WellFormed :=
      wellFormed_attempt_file hstore
    have hgrows := (changesOnly_attempt_file projectId text.path text.source store).grows
    obtain ⟨houtcomes, rename, hrename, hmatches⟩ := ih hnext (List.nodup_cons.mp hpaths).2
    exact ⟨houtcomes.cons _, rename, hrename.of_grows hgrows, hmatches⟩
  | swap second first rest =>
    have hdifferent : first.path ≠ second.path := fun heq ↦
      (List.nodup_cons.mp hpaths).1 (List.mem_cons.mpr (Or.inl heq))
    obtain ⟨hfirst, hsecond, hdiamond⟩ :=
      diamond_files hstore projectId hdifferent first.source second.source
    obtain ⟨houtcomes, hmatches⟩ := matches_files hdiamond.exchange_faithful hdiamond.isMatch
      projectId rest
    refine ⟨?_, _, ⟨hdiamond.exchange_bijective, Renaming.exchange_agreeOn_unchanged⟩, hmatches⟩
    unfold files
    dsimp only
    unfold files
    dsimp only
    rw [List.zip_cons_cons, List.zip_cons_cons, List.zip_cons_cons, List.zip_cons_cons, ← hfirst,
      ← hsecond, houtcomes]
    exact List.Perm.swap _ _ _
  | trans hfirst hsecond ihFirst ihSecond =>
    obtain ⟨houtcomes, rename, hrename, hmatches⟩ := ihFirst hstore hpaths
    obtain ⟨hothers, again, hagain, hmatchesAgain⟩ :=
      ihSecond hstore ((hfirst.map _).nodup_iff.mp hpaths)
    exact ⟨houtcomes.trans hothers, rename.andThen again, hrename.andThen hagain,
      hmatches.andThen hmatchesAgain⟩

end Ingest

/-- In every store that operations reach, running over files of different paths in another order
comes to the same. Each file has the same outcome, and imports and calls have the same counts. The
stores are the same up to the ids of new rows and the order of rows: with these ids renamed, symbols
have the corresponding parents, calls the corresponding callers, and imports and calls are resolved
to the corresponding symbols. -/
theorem run_perm_storeAfter (operations : List Operation) (projectId : Int) (batchSize : Nat)
    {texts others : List SourceText} (hperm : texts.Perm others)
    (hpaths : (texts.map (·.path)).Nodup) :
    let store := storeAfter operations
    let first := Ingest.run projectId batchSize texts store
    let second := Ingest.run projectId batchSize others store
    first.outcomes.length = texts.length ∧ second.outcomes.length = others.length ∧
      (texts.zip first.outcomes).Perm (others.zip second.outcomes) ∧
      (∃ stats, first.linked = .ok stats ∧ second.linked = .ok stats) ∧
      ∃ rename : Renaming, rename.OfNewIds store ∧
        first.store.IsRenamed rename second.store := by
  have hstore := wellFormed_storeAfter operations
  intro store first second
  have hfirst : first = ⟨_, _, _⟩ := Ingest.run_eq hstore projectId batchSize texts
  have hsecond : second = ⟨_, _, _⟩ := Ingest.run_eq hstore projectId batchSize others
  obtain ⟨houtcomes, rename, hrename, hmatches⟩ :=
    Ingest.files_perm hstore projectId hperm hpaths
  have hstores := hmatches.corresponds hrename.faithful
    (Ingest.wellFormed_files hstore projectId texts)
    (Ingest.wellFormed_files hstore projectId others)
  rw [hfirst, hsecond]
  exact ⟨Ingest.length_files projectId texts store, Ingest.length_files projectId others store,
    houtcomes, ⟨_, rfl, congrArg Except.ok (hstores.linkStats_eq projectId batchSize)⟩,
    rename, hrename, (hstores.linked projectId batchSize).toIsRenamed⟩

/-- A module with a function. -/
def declaringText : SourceText :=
  ⟨"util.py", "def go():\n    pass\n"⟩

/-- A module that imports the function and calls it. -/
def callingText : SourceText :=
  ⟨"main.py", "from util import go\n\ndef run():\n    go()\n"⟩

/-- The caller may come before what it calls: the symbols get other ids, and that is all. -/
theorem run_perm_callingText :
    let store := storeAfter [.ensureProject "demo" "file:///demo"]
    let texts := [declaringText, callingText]
    let others := [callingText, declaringText]
    let first := Ingest.run 1 1 texts store
    let second := Ingest.run 1 1 others store
    texts.Perm others ∧ (texts.map (·.path)).Nodup ∧
      first.store.symbols ≠ second.store.symbols ∧
      (texts.zip first.outcomes).Perm (others.zip second.outcomes) ∧
      (∃ stats, first.linked = .ok stats ∧ second.linked = .ok stats) ∧
      ∃ rename : Renaming, rename.OfNewIds store ∧
        first.store.IsRenamed rename second.store := by
  have hperm : [declaringText, callingText].Perm [callingText, declaringText] :=
    .swap callingText declaringText []
  have hpaths : ([declaringText, callingText].map (·.path)).Nodup := by decide
  have hstore := wellFormed_storeAfter [.ensureProject "demo" "file:///demo"]
  obtain ⟨-, -, hsame⟩ :=
    run_perm_storeAfter [.ensureProject "demo" "file:///demo"] 1 1 hperm hpaths
  refine ⟨hperm, hpaths, ?_, hsame⟩
  rw [Ingest.symbols_run hstore, Ingest.symbols_run hstore]
  decide +kernel

end SymbolGraph
