import SymbolGraph.Ingest.Repository
import SymbolGraph.Proofs.Ingest.Scope
import SymbolGraph.Proofs.Pipeline.Run

/-!
# All or nothing

A transaction that fails leaves every table as it was, however many of its writes went through
before the one that failed. `runWriter` shows the rows that a writer has written when it gives up,
and `dangles` tells that a list of resolutions has one in it that cannot be made; neither leaves
anything behind (`attempt_writeFile`, `attempt_resolveAll`).

A source file is refused when it cannot be read or its project is unknown, and for no other reason
(`exists_file_run_eq_error_iff`): what it refers to is always stored, and declarations that conflict
or have no place are passed over. So a run over a repository stores the files it accepts as if there
were no others (`scannedFiles_run`), and does not fail. `isAllOrNothing_storeAfter` says all this of
every store that operations reach.
-/

set_option autoImplicit false
set_option relaxedAutoImplicit false

namespace SymbolGraph

/-! ### Transactions -/

namespace Store

/-- A transaction on a file keeps what its writer wrote, or nothing of it. -/
theorem attempt_writeFile {α : Type} (file : FileScope) (writer : FileWriter α) (store : Store) :
    attempt (writeFile file writer) store =
      match runWriter file writer store with
      | (.ok value, written) => (.ok value, written)
      | (.error failure, _) => (.error failure, store) := by
  unfold attempt writeFile
  rw [StateT.run]
  rcases runWriter file writer store with ⟨result, written⟩
  cases result with
  | ok value => rfl
  | error failure => rfl

/-- Resolutions are made together, or none of them when one leads to a symbol that is not stored. -/
theorem Ledger.attempt_resolveAll {ρ : Type} {ledger : Ledger ρ} {store : Store}
    (hids : ((ledger.rows store).map ledger.id).Nodup) (pairs : List (Int × Int)) :
    attempt (ledger.resolveAll pairs) store =
      if ledger.dangles (ledger.paired pairs) store then (.error .brokenReference, store)
      else (.ok (ledger.settledCount (ledger.paired pairs) (ledger.rows store)),
        ledger.settleRows (ledger.paired pairs) store) := by
  unfold attempt
  rw [resolveAll_run pairs hids]
  cases ledger.dangles (ledger.paired pairs) store with
  | true => rfl
  | false => rfl

end Store

/-! ### Source files -/

namespace SourceFile

/-- A file is not read when its path belongs to no language or its text is no program. -/
theorem extract_eq_error_iff {path source : String} {failure : GraphError} :
    extract path source = .error failure ↔
      Language.ofPath? path = none ∧ failure = .unsupported path ∨
      extract path source = .error (.syntaxError path) ∧ failure = .syntaxError path := by
  have hcases : Language.ofPath? path = none ∧ extract path source = .error (.unsupported path) ∨
      extract path source = .error (.syntaxError path) ∨
      ∃ read, extract path source = .ok read := by
    unfold extract
    split
    · rename_i hnone
      exact Or.inl ⟨hnone, rfl⟩
    · split
      · exact Or.inr (Or.inr ⟨_, rfl⟩)
      · exact Or.inr (Or.inl rfl)
    · split
      · exact Or.inr (Or.inr ⟨_, rfl⟩)
      · exact Or.inr (Or.inl rfl)
  rcases hcases with ⟨hnone, hread⟩ | hread | ⟨read, hread⟩
  · rw [hread]
    simp [hnone, GraphError.unsupported, eq_comm]
  · have hlanguage : Language.ofPath? path ≠ none := by
      intro hnone
      unfold extract at hread
      rw [hnone] at hread
      cases hread
    rw [hread]
    simp [hlanguage, eq_comm]
  · have hlanguage : Language.ofPath? path ≠ none := by
      intro hnone
      unfold extract at hread
      rw [hnone] at hread
      cases hread
    rw [hread]
    simp [hlanguage]

/-- An error of reading a file concerns that file alone. -/
theorem isRecoverable_of_extract {path source : String} {failure : GraphError}
    (hread : extract path source = .error failure) : failure.isRecoverable = true := by
  rcases extract_eq_error_iff.mp hread with ⟨-, rfl⟩ | ⟨-, rfl⟩
  · rfl
  · rfl

end SourceFile

namespace Ingest

variable {store : Store} {projectId : Int}

/-- In a known project, a file that can be read is stored. -/
theorem exists_file_run (hproject : store.hasProject projectId = true) {path source : String}
    {read : Extraction} (hread : SourceFile.extract path source = .ok read) :
    ∃ stats later, (file projectId path source).run store = .ok (stats, later) := by
  rw [file_run_of_read hread]
  exact exists_extraction_run hproject read

/-- A file is refused when its language is unknown, it is no program of its language, or the project
is unknown. -/
theorem exists_file_run_eq_error_iff (hstore : store.WellFormed) {path source : String} :
    (∃ failure, (file projectId path source).run store = .error failure) ↔
      Language.ofPath? path = none ∨
      SourceFile.extract path source = .error (.syntaxError path) ∨
      store.hasProject projectId = false := by
  cases hread : SourceFile.extract path source with
  | error failure =>
    refine iff_of_true ⟨failure, file_run_of_unreadable hread projectId store⟩ ?_
    rcases SourceFile.extract_eq_error_iff.mp hread with ⟨hnone, -⟩ | ⟨-, rfl⟩
    · exact Or.inl hnone
    · exact Or.inr (Or.inl rfl)
  | ok read =>
    have hlanguage : Language.ofPath? path ≠ none := by
      intro hnone
      rw [SourceFile.extract_eq_error_iff.mpr (Or.inl ⟨hnone, rfl⟩)] at hread
      cases hread
    cases hproject : store.hasProject projectId with
    | true =>
      obtain ⟨stats, later, hrun⟩ := exists_file_run hproject hread
      simp [hrun, hlanguage]
    | false =>
      have hrefused : (extraction ⟨projectId, path⟩ read).run store = .error .brokenReference :=
        extraction_run_of_unknown hstore hproject hread
      rw [file_run_of_read hread, hrefused]
      simp

end Ingest

/-! ### Repositories -/

/-- The file is over the size limit. -/
def ScannedFile.isOversize (maxBytes : Nat) (found : ScannedFile) : Bool :=
  maxBytes < found.size

/-- The text of a scanned file that is stored: the file is within the size limit, its bytes are
valid text, and the text can be read in the language of its path. -/
def ScannedFile.accepted? (maxBytes : Nat) (found : ScannedFile) : Option SourceText :=
  if found.isOversize maxBytes then none
  else
    (found.text?.map (SourceText.mk found.path)).filter fun text ↦
      (SourceFile.extract text.path text.source).isOk

/-- Every file is stored, passed over or failed. -/
theorem FileOutcome.length_eq (outcomes : List FileOutcome) : outcomes.length =
    (outcomes.filterMap FileOutcome.stats?).length + outcomes.countP (· = .failed) +
      outcomes.countP (· = .passedOver) := by
  induction outcomes with
  | nil => rfl
  | cons outcome rest ih =>
    rw [List.length_cons, ih, List.countP_cons, List.countP_cons]
    cases outcome with
    | stored stats =>
      rw [List.filterMap_cons_some (f := FileOutcome.stats?) rfl, List.length_cons,
        if_neg (by simp), if_neg (by simp)]
      omega
    | passedOver =>
      rw [List.filterMap_cons_none rfl, if_neg (by simp), if_pos (by simp)]
      omega
    | failed =>
      rw [List.filterMap_cons_none rfl, if_pos (by simp), if_neg (by simp)]
      omega

namespace Ingest

variable {store : Store} {projectId : Int} {maxBytes : Nat} {found : ScannedFile}

/-- In a known project, an accepted file is stored. -/
theorem scanned_run_of_accepted (hproject : store.hasProject projectId = true) {text : SourceText}
    (haccepted : found.accepted? maxBytes = some text) :
    ∃ stats later, (file projectId text.path text.source).run store = .ok (stats, later) ∧
      (scanned projectId maxBytes found).run store = .ok (.stored stats, later) := by
  unfold ScannedFile.accepted? ScannedFile.isOversize at haccepted
  split at haccepted
  · cases haccepted
  · rename_i hsize
    obtain ⟨htext, hok⟩ := Option.filter_eq_some_iff.mp haccepted
    obtain ⟨source, hsource, rfl⟩ := Option.map_eq_some_iff.mp htext
    cases hread : SourceFile.extract found.path source with
    | error failure =>
      rw [hread] at hok
      cases hok
    | ok read =>
      obtain ⟨stats, later, hrun⟩ := exists_file_run hproject hread
      refine ⟨stats, later, hrun, ?_⟩
      unfold scanned
      rw [if_neg (by simpa using hsize), hsource]
      change (Ingest.source projectId found.path source).run store = _
      unfold Ingest.source
      rw [StateT.run, hrun]

/-- A file that is not accepted leaves the store as it is. -/
theorem scanned_run_of_not_accepted (hnone : found.accepted? maxBytes = none) :
    (scanned projectId maxBytes found).run store =
      .ok (if found.isOversize maxBytes then .passedOver else .failed, store) := by
  unfold scanned
  unfold ScannedFile.accepted? at hnone
  by_cases hsize : maxBytes < found.size
  · rw [if_pos hsize, if_pos (by simpa [ScannedFile.isOversize] using hsize)]
    rfl
  · have hwithin : ¬ found.isOversize maxBytes = true := by
      simpa [ScannedFile.isOversize] using hsize
    rw [if_neg hsize, if_neg hwithin]
    rw [if_neg hwithin] at hnone
    cases htext : found.text? with
    | none => rfl
    | some source =>
      rw [htext, Option.map_some] at hnone
      cases hread : SourceFile.extract found.path source with
      | ok read => simp [Option.filter, hread, Except.isOk, Except.toBool] at hnone
      | error failure =>
        change (Ingest.source projectId found.path source).run store = _
        unfold Ingest.source
        rw [StateT.run, file_run_of_unreadable hread]
        exact if_pos (SourceFile.isRecoverable_of_extract hread)

/-- In a known project, scanned files leave what the accepted ones leave, all of which are
stored. -/
theorem scannedFiles_run (maxBytes : Nat) (hproject : store.hasProject projectId = true)
    (scan : List ScannedFile) :
    ∃ outcomes, (scannedFiles projectId maxBytes scan).run store =
        .ok (outcomes, (files projectId (scan.filterMap (·.accepted? maxBytes)) store).2) ∧
      (files projectId (scan.filterMap (·.accepted? maxBytes)) store).1 =
        (outcomes.filterMap FileOutcome.stats?).map .ok ∧
      outcomes.length = scan.length ∧
      outcomes.countP (· = .passedOver) = scan.countP (·.isOversize maxBytes) := by
  induction scan generalizing store with
  | nil => exact ⟨[], rfl, rfl, rfl, rfl⟩
  | cons first rest ih =>
    cases haccepted : first.accepted? maxBytes with
    | some text =>
      obtain ⟨stats, later, hfile, hfirst⟩ := scanned_run_of_accepted hproject haccepted
      have hgrows := preserves_file Store.keptByWrites_grows.toKeptByFileWrites projectId
        text.path text.source store stats later hfile
      have hwithin : first.isOversize maxBytes = false := by
        refine Bool.eq_false_iff.mpr fun hsize ↦ ?_
        rw [ScannedFile.accepted?, if_pos hsize] at haccepted
        cases haccepted
      obtain ⟨outcomes, hrest, hstored, hlength, hpassed⟩ := ih (hgrows.hasProject hproject)
      have hattempt : Store.attempt (file projectId text.path text.source) store =
          (.ok stats, later) := by
        rw [Store.attempt, hfile]
      rw [List.filterMap_cons_some haccepted, files, hattempt]
      refine ⟨.stored stats :: outcomes, ?_, ?_, ?_, ?_⟩
      · exact Store.run_bind_eq_ok_iff.mpr ⟨_, _, hfirst,
          Store.run_bind_eq_ok_iff.mpr ⟨_, _, hrest, rfl⟩⟩
      · simp [hstored, FileOutcome.stats?]
      · simp [hlength]
      · simp [hpassed, hwithin]
    | none =>
      have hfirst : (scanned projectId maxBytes first).run store = .ok (_, store) :=
        scanned_run_of_not_accepted haccepted
      obtain ⟨outcomes, hrest, hstored, hlength, hpassed⟩ := ih hproject
      rw [List.filterMap_cons_none haccepted]
      refine ⟨_ :: outcomes, Store.run_bind_eq_ok_iff.mpr ⟨_, _, hfirst,
        Store.run_bind_eq_ok_iff.mpr ⟨_, _, hrest, rfl⟩⟩, ?_, ?_, ?_⟩
      · cases first.isOversize maxBytes with
        | true => exact hstored
        | false => exact hstored
      · rw [List.length_cons, List.length_cons, hlength]
      · rw [List.countP_cons, List.countP_cons, hpassed]
        cases first.isOversize maxBytes with
        | true => rfl
        | false => rfl

/-- Ensuring a project does not fail, and the project is known afterwards. -/
theorem exists_ensureProject_run (name url : String) (store : Store) :
    ∃ project ensured, (Store.ensureProject name url).run store = .ok (project, ensured) ∧
      ensured.hasProject project.id = true := by
  have hrun : ∃ project ensured,
      (Store.ensureProject name url).run store = .ok (project, ensured) := by
    unfold Store.ensureProject
    rw [Store.run_get_bind]
    split
    · exact ⟨_, _, rfl⟩
    · exact ⟨_, _, rfl⟩
  obtain ⟨project, ensured, hrun⟩ := hrun
  refine ⟨project, ensured, hrun, Store.hasProject_eq_true_iff.mpr ⟨project, ?_, rfl⟩⟩
  rcases Store.ensureProject_cases hrun with ⟨hmem, -, rfl⟩ | ⟨-, -, rfl⟩
  · exact hmem
  · exact List.mem_append_right _ List.mem_cons_self

/-- A run over a repository adds its project, stores the accepted files as if there were no others,
and links the project. -/
structure IsStoredFrom (scan : List ScannedFile) (maxBytes batchSize : Nat) (ensured later : Store)
    (summary : IngestSummary) : Prop where
  /-- The run leaves what the accepted files leave, linked. -/
  store : later = Resolution.linked
    (files summary.projectId (scan.filterMap (·.accepted? maxBytes)) ensured).2
    summary.projectId batchSize
  /-- Every accepted file is stored. -/
  stored : ∀ outcome ∈
    (files summary.projectId (scan.filterMap (·.accepted? maxBytes)) ensured).1,
    ∃ stats, outcome = .ok stats
  processed : summary.filesProcessed = (scan.filterMap (·.accepted? maxBytes)).length
  scanned : summary.filesScanned = scan.length
  scanned_eq : summary.filesScanned =
    summary.filesProcessed + summary.filesFailed + scan.countP (·.isOversize maxBytes)

/-- A run over a repository does not fail. -/
theorem exists_repository_run (hstore : store.WellFormed) (name url : String)
    (maxBytes batchSize : Nat) (scan : List ScannedFile) :
    ∃ project ensured summary later,
      (Store.ensureProject name url).run store = .ok (project, ensured) ∧
      (repository name url maxBytes batchSize scan).run store = .ok (summary, later) ∧
      summary.projectId = project.id ∧
      IsStoredFrom scan maxBytes batchSize ensured later summary := by
  obtain ⟨project, ensured, hensured, hproject⟩ := exists_ensureProject_run name url store
  have hwell := Store.wellFormed_ensureProject name url store project ensured hensured hstore
  obtain ⟨outcomes, hscanned, hstored, hlength, hpassed⟩ :=
    scannedFiles_run maxBytes hproject scan
  have hlink := Resolution.link_run
    (wellFormed_files hwell project.id (scan.filterMap (·.accepted? maxBytes))) project.id batchSize
  refine ⟨project, ensured, _, _, hensured, Store.run_bind_eq_ok_iff.mpr ⟨_, _, hensured,
    Store.run_bind_eq_ok_iff.mpr ⟨_, _, hscanned,
      Store.run_bind_eq_ok_iff.mpr ⟨_, _, hlink, rfl⟩⟩⟩, rfl, ?_⟩
  exact {
    store := rfl
    stored := by
      change ∀ outcome ∈ (files project.id _ ensured).1, _
      rw [hstored]
      intro outcome houtcome
      obtain ⟨stats, -, rfl⟩ := List.mem_map.mp houtcome
      exact ⟨stats, rfl⟩
    processed := by
      have hcount := congrArg List.length hstored
      rw [length_files, List.length_map] at hcount
      exact hcount.symm
    scanned := hlength
    scanned_eq := by
      rw [← hpassed]
      exact FileOutcome.length_eq outcomes }

end Ingest

/-! ### Every operation -/

/-- Operations on a store take effect as a whole or not at all. -/
structure Store.IsAllOrNothing (store : Store) : Prop where
  /-- A writer that gives up leaves every table as it was, whatever it has written. -/
  writeFile : ∀ {α : Type} (file : FileScope) (writer : FileWriter α),
    attempt (Store.writeFile file writer) store =
      match runWriter file writer store with
      | (.ok value, written) => (.ok value, written)
      | (.error failure, _) => (.error failure, store)
  /-- Imports are resolved together, each open one with its first pair, unless one of these symbols
  is not stored. -/
  resolveImports : ∀ pairs, attempt (Store.resolveImports pairs) store =
    if Ledger.imports.dangles (Ledger.imports.paired pairs) store then
      (.error .brokenReference, store)
    else
      (.ok (Ledger.imports.settledCount (Ledger.imports.paired pairs) store.imports),
        Ledger.imports.settleRows (Ledger.imports.paired pairs) store)
  /-- Calls are resolved in the same way. -/
  resolveCalls : ∀ pairs, attempt (Store.resolveCalls pairs) store =
    if Ledger.calls.dangles (Ledger.calls.paired pairs) store then
      (.error .brokenReference, store)
    else
      (.ok (Ledger.calls.settledCount (Ledger.calls.paired pairs) store.calls),
        Ledger.calls.settleRows (Ledger.calls.paired pairs) store)
  /-- A source file is refused when no language owns its path, it is no program of its language, or
  its project is unknown. -/
  ingestFile : ∀ projectId path source,
    (∃ failure, attempt (Ingest.file projectId path source) store = (.error failure, store)) ↔
      Language.ofPath? path = none ∨
      SourceFile.extract path source = .error (.syntaxError path) ∨
      store.hasProject projectId = false
  /-- A repository is stored as its accepted files alone would be, in whatever order they come. -/
  repository : ∀ name url maxBytes batchSize scan, ∃ project ensured summary later,
    (ensureProject name url).run store = .ok (project, ensured) ∧
    (Ingest.repository name url maxBytes batchSize scan).run store = .ok (summary, later) ∧
    summary.projectId = project.id ∧
    Ingest.IsStoredFrom scan maxBytes batchSize ensured later summary

/-- An attempt fails where the change does, and the store is as it was. -/
theorem Store.attempt_eq_error_iff {α : Type} {change : Change α} {store : Store}
    {failure : GraphError} :
    attempt change store = (.error failure, store) ↔ change.run store = .error failure := by
  unfold attempt
  cases change.run store with
  | error other => simp
  | ok result => simp

theorem Store.WellFormed.isAllOrNothing {store : Store} (hstore : store.WellFormed) :
    store.IsAllOrNothing where
  writeFile := fun file writer ↦ attempt_writeFile file writer store
  resolveImports := fun pairs ↦ Ledger.attempt_resolveAll hstore.imports.nodup_ids pairs
  resolveCalls := fun pairs ↦ Ledger.attempt_resolveAll hstore.calls.nodup_ids pairs
  ingestFile := by
    intro projectId path source
    simp only [attempt_eq_error_iff]
    exact Ingest.exists_file_run_eq_error_iff hstore
  repository := Ingest.exists_repository_run hstore

/-- In every store that operations reach, writing a file, resolving imports and resolving calls
succeed or leave every table as it was; a source file is refused only when it cannot be read or its
project is unknown; and a repository leaves, before it is linked, what its readable and accepted
files within the size limit leave. -/
theorem isAllOrNothing_storeAfter (operations : List Operation) :
    (storeAfter operations).IsAllOrNothing :=
  (wellFormed_storeAfter operations).isAllOrNothing

end SymbolGraph
