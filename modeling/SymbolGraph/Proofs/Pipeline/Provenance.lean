import SymbolGraph.Proofs.Pipeline.Faithfulness

/-!
# Rows repeat what was read

In every store that ordinary runs reach, a symbol repeats a declaration that some text of its file
makes, and a call a call that some text of its file makes (`traced_storeAfterSteps`). The text need
not be the last one that was stored: rows that a file no longer asks for stay.

So what holds of whatever can be read from a file holds of its rows. Only the module of a file may
start before its other symbols (`Traced.one_le_startLine`, `Traced.startLine_of_module`), names that
Python declares have one part (`Traced.not_mem_name`), and calls have simple names
(`Traced.isSimpleCallee`).
-/

set_option autoImplicit false
set_option relaxedAutoImplicit false

namespace SymbolGraph

/-! ### What can be read -/

namespace SourceFile

variable {path source : String} {read : Extraction} (hread : extract path source = .ok read)
include hread

theorem regular_extract : read.Regular := by
  obtain ⟨fits, hextends⟩ := exists_extends_extract hread
  exact (Extraction.regular_ofModule _ source).of_extends hextends

/-- The module starts on the first line. -/
theorem startLine_of_module {declaration : Declaration}
    (hdeclaration : declaration ∈ read.declarations) (hkind : declaration.kind = .module) :
    declaration.span.startLine = 1 := by
  refine (regular_extract hread).startLine_of_root declaration hdeclaration ?_
  rcases (nested_extract hread).owner declaration hdeclaration with
    ⟨hroot, -⟩ | ⟨owner, -, -, -, hfits⟩
  · exact hroot
  · exact absurd hkind hfits.ne_module

/-- A name that a Python file declares has one part. -/
theorem not_mem_name (hlanguage : Language.ofPath? path = some .python) {declaration : Declaration}
    (hdeclaration : declaration ∈ read.declarations) (hkind : declaration.kind ≠ .module) :
    '.' ∉ declaration.name.toList := by
  rcases extract_cases hread with ⟨-, program, -, rfl⟩ | ⟨hother, -⟩
  · rcases (Python.nested_extraction path source program).owner declaration hdeclaration with
      ⟨-, hmodule, -⟩ | ⟨owner, -, -, -, -, -, hname⟩
    · exact absurd hmodule hkind
    · exact hname
  · cases hlanguage.symm.trans hother

end SourceFile

/-! ### Rows -/

/-- Some text of the file declares the symbol as it is stored. -/
def Symbol.IsTraced (symbol : Symbol) : Prop :=
  ∃ source read, SourceFile.extract symbol.filePath source = .ok read ∧
    ∃ declaration ∈ read.declarations, symbol.kind = declaration.kind ∧
      symbol.name = declaration.name ∧ symbol.signature = declaration.signature ∧
        symbol.span = declaration.span

/-- Some text of the file makes the call. -/
def Call.IsTraced (call : Call) : Prop :=
  ∃ source read, SourceFile.extract call.filePath source = .ok read ∧
    ∃ mention ∈ read.calls, call.callee = mention.callee ∧ call.line = mention.line

namespace Store

/-- All symbols and calls repeat what some text of their file says. -/
structure Traced (store : Store) : Prop where
  symbols : ∀ symbol ∈ store.symbols, symbol.IsTraced
  calls : ∀ call ∈ store.calls, call.IsTraced

theorem traced_empty : empty.Traced where
  symbols := fun _ hsymbol ↦ nomatch hsymbol
  calls := fun _ hcall ↦ nomatch hcall

namespace Traced

variable {store : Store} (htraced : store.Traced)
include htraced

theorem one_le_startLine {symbol : Symbol} (hsymbol : symbol ∈ store.symbols) :
    1 ≤ symbol.span.startLine := by
  obtain ⟨source, read, hread, declaration, hdeclaration, -, -, -, hspan⟩ :=
    htraced.symbols symbol hsymbol
  rw [hspan]
  exact (SourceFile.regular_extract hread).one_le_startLine declaration hdeclaration

theorem startLine_of_module {symbol : Symbol} (hsymbol : symbol ∈ store.symbols)
    (hkind : symbol.kind = .module) : symbol.span.startLine = 1 := by
  obtain ⟨source, read, hread, declaration, hdeclaration, hsame, -, -, hspan⟩ :=
    htraced.symbols symbol hsymbol
  rw [hspan]
  exact SourceFile.startLine_of_module hread hdeclaration (hsame ▸ hkind)

theorem not_mem_name {symbol : Symbol} (hsymbol : symbol ∈ store.symbols)
    (hlanguage : Language.ofPath? symbol.filePath = some .python) (hkind : symbol.kind ≠ .module) :
    '.' ∉ symbol.name.toList := by
  obtain ⟨source, read, hread, declaration, hdeclaration, hsame, hname, -⟩ :=
    htraced.symbols symbol hsymbol
  rw [hname]
  exact SourceFile.not_mem_name hread hlanguage hdeclaration (hsame ▸ hkind)

theorem isSimpleCallee {call : Call} (hcall : call ∈ store.calls) :
    SymbolGraph.isSimpleCallee call.callee = true := by
  obtain ⟨source, read, hread, mention, hmention, hcallee, -⟩ := htraced.calls call hcall
  rw [hcallee]
  exact (SourceFile.regular_extract hread).isSimpleCallee mention hmention

end Traced

end Store

/-! ### Runs -/

namespace Ingest

variable {file : Store.FileScope} {read : Extraction} {before later : Store} {stats : FileStats}
  {idOf : Nat → Option Int}

/-- What is stored faithfully is traced to the text that was read. -/
theorem IsFaithful.traced (hfaithful : IsFaithful file read before later stats idOf)
    (hlater : later.WellFormed) (hbefore : before.Traced) {source : String}
    (hread : SourceFile.extract file.filePath source = .ok read) : later.Traced where
  symbols := by
    intro row hrow
    cases hlast : lastDeclared idOf read.declarations row.id with
    | none => exact hbefore.symbols row ((hfaithful.others row hlast).mp hrow)
    | some declaration =>
      obtain ⟨hdeclaration, hid⟩ := List.mem_filter.mp (List.mem_of_getLast? hlast)
      obtain ⟨mapped, hmapped, hsame, hstands, hkind⟩ :=
        hfaithful.row declaration hdeclaration row.id (of_decide_eq_true hid)
      obtain rfl := hlater.symbols.eq_of_id_eq hmapped hrow hsame
      obtain ⟨hsignature, hspan⟩ := hfaithful.details mapped hmapped declaration hlast
      exact ⟨source, read, hstands.filePath ▸ hread, declaration, hdeclaration, hkind,
        hstands.name, hsignature, hspan⟩
  calls := by
    obtain ⟨added, hcalls, hplaces, hnew, -⟩ := hfaithful.calls
    intro call hcall
    rw [hcalls] at hcall
    rcases List.mem_append.mp hcall with hold | hadded
    · exact hbefore.calls call hold
    · have hplace : call.place ∈ added.map Call.place := List.mem_map_of_mem hadded
      rw [hplaces] at hplace
      obtain ⟨mention, hmention, hsome⟩ := List.mem_filterMap.mp (mem_of_mem_newKeys hplace)
      obtain ⟨callerId, -, hsame⟩ := Option.map_eq_some_iff.mp hsome
      exact ⟨source, read, (hnew call hadded).filePath ▸ hread, mention, hmention,
        (congrArg (·.2.1) hsame).symm, (congrArg (·.2.2) hsame).symm⟩

/-- Storing a file keeps rows traced. -/
theorem traced_file {store later : Store} (hstore : store.WellFormed) (htraced : store.Traced)
    {projectId : Int} {path source : String} {stats : FileStats}
    (hrun : (Ingest.file projectId path source).run store = .ok (stats, later)) :
    later.Traced := by
  have hkept :=
    preserves_file Store.keptByWrites_wellFormed.toKeptByFileWrites projectId path source
  have hlater : later.WellFormed := hkept store stats later hrun hstore
  obtain ⟨read, hread, hstored⟩ := file_run_eq_ok_iff.mp hrun
  cases hproject : store.hasProject projectId with
  | false =>
    rw [extraction_run_of_unknown hstore hproject hread] at hstored
    cases hstored
  | true =>
    obtain ⟨_, _, idOf, hsame, hfaithful⟩ := @exists_isFaithful ⟨projectId, path⟩ read store hstore
      hproject _ _ (SourceFile.nested_extract hread)
    obtain ⟨rfl, rfl⟩ := Prod.mk.inj (Except.ok.inj (hsame.symm.trans hstored))
    exact hfaithful.traced hlater htraced hread

end Ingest

/-- Linking amends no more than what calls and imports stand for. -/
theorem Resolution.traced_linked {store : Store} (htraced : store.Traced) (projectId : Int)
    (size : Nat) : (linked store projectId size).Traced where
  symbols := htraced.symbols
  calls := @Store.Ledger.forall_mem_settleRows _ .calls _ _ _ htraced.calls
    fun call hcall _ _ ↦ htraced.calls call hcall

/-- A step of an ordinary run keeps rows traced. -/
theorem traced_apply (step : PipelineStep) {store : Store} (hstore : store.WellFormed)
    (htraced : store.Traced) : (step.operation.apply store).Traced := by
  cases step with
  | ensureProject name url =>
    refine Store.attempt_induct htraced fun project later hrun ↦ ?_
    rcases Store.ensureProject_cases hrun with ⟨-, -, rfl⟩ | ⟨-, -, rfl⟩
    · exact htraced
    · exact ⟨htraced.symbols, htraced.calls⟩
  | ingestFile projectId path source =>
    exact Store.attempt_induct htraced fun stats later hrun ↦
      Ingest.traced_file hstore htraced hrun
  | link projectId batchSize =>
    rw [PipelineStep.operation, apply_link hstore]
    exact Resolution.traced_linked htraced projectId batchSize

/-- In every store that ordinary runs reach, symbols and calls repeat what some text of their file
says. -/
theorem traced_storeAfterSteps (steps : List PipelineStep) : (storeAfterSteps steps).Traced :=
  storeAfterSteps_induct Store.traced_empty (fun _ step ↦ traced_apply step) steps

end SymbolGraph
