import SymbolGraph.Proofs.Pipeline.CallTargets
import SymbolGraph.Proofs.Pipeline.Provenance
import SymbolGraph.Proofs.Python.ModuleName
import SymbolGraph.Proofs.Resolution.Choice
import SymbolGraph.Proofs.Resolution.Link

/-!
# Calls that are qualified by an imported module

A Python file that imports a module under its whole name calls what the module declares by that name
and the name of the declaration. Linking resolves the import to the module whose source file has the
imported name as its path, and the call to the declaration inside it
(`settled_storeAfterSteps_link`). Other files whose paths end in the same way do not matter: the
path of the source file is the first candidate and the shortest path that matches it, and no symbol
of a file comes before its module (`Store.Traced.distance_le`).

A name that ends in `__init__` is the exception. The file stands for its directory, so its module
may be called otherwise (`Import.BringsModule.root_name_iff`), and then the import finds nothing
(`not_settled_importedPackage`).
-/

set_option autoImplicit false
set_option relaxedAutoImplicit false

namespace SymbolGraph

open Store (Ledger)

/-! ### Imports of modules -/

/-- The import is open and brings in the module of a source file under its whole name, which no
other import of its file uses. -/
@[mk_iff]
structure Import.BringsModule (store : Store) (entry : Import) (root : Symbol) : Prop where
  mem : entry ∈ store.imports
  isOpen : entry.isResolved = false
  language : Language.ofPath? entry.filePath = some .python
  name : entry.name = Python.ModuleName.leaf entry.source
  localName : entry.localName = entry.source
  unique : ∀ other ∈ store.imports, other.projectId = entry.projectId →
    other.filePath = entry.filePath → other.localName = entry.localName → other = entry
  root_mem : root ∈ store.symbols
  root_kind : root.kind = .module
  root_projectId : root.projectId = entry.projectId
  root_filePath : root.filePath = Python.ModuleName.sourceFile entry.source

instance {store : Store} {entry : Import} {root : Symbol} :
    Decidable (entry.BringsModule store root) :=
  decidable_of_iff _ (Import.bringsModule_iff store entry root).symm

/-- No symbol of a file comes before its module. -/
theorem Store.Traced.distance_le {store : Store} (htraced : store.Traced)
    (hstore : store.WellFormed) (hnested : store.Nested) {root symbol : Symbol}
    (hroot : root ∈ store.symbols) (hkind : root.kind = .module) (hsymbol : symbol ∈ store.symbols)
    (hproject : symbol.projectId = root.projectId) (hfile : symbol.filePath = root.filePath) :
    root.distance ≤ symbol.distance := by
  have htop := (hnested.isModule_iff hroot).mp hkind
  have hid := hnested.root_id_le hstore hroot htop hsymbol hproject hfile
  have hline := htraced.one_le_startLine hsymbol
  rw [← htraced.startLine_of_module hroot hkind] at hline
  have hplace : toLex (root.span.startLine, root.id) ≤ toLex (symbol.span.startLine, symbol.id) :=
    Prod.Lex.toLex_le_toLex.mpr ((lt_or_eq_of_le hline).imp_right (⟨·, hid⟩))
  rw [Symbol.distance, Symbol.distance, hfile]
  exact Prod.Lex.toLex_le_toLex.mpr
    (Or.inr ⟨rfl, Prod.Lex.toLex_le_toLex.mpr (Or.inr ⟨rfl, hplace⟩)⟩)

namespace Import.BringsModule

variable {store : Store} {entry : Import} {root : Symbol} (hbrings : entry.BringsModule store root)
include hbrings

/-- The module is called like the last part of the imported name, unless this part is `__init__` and
another part comes before it. -/
theorem root_name_iff (hnested : store.Nested)
    (hdotted : Python.ModuleName.IsDotted entry.source) :
    root.name = entry.name ↔ (Python.ModuleName.leaf entry.source = Python.ModuleName.initStem →
      (Text.split '.' entry.source).dropLast.getLast?.getD Python.ModuleName.initStem =
        Python.ModuleName.initStem) := by
  have htop := (hnested.isModule_iff hbrings.root_mem).mp hbrings.root_kind
  rw [((hnested root hbrings.root_mem).root htop).2, hbrings.root_filePath, hbrings.name,
    SourceFile.moduleName, hdotted.ofPath?_sourceFile]
  exact hdotted.leaf_ofPath_eq_iff

/-- The import stands for the module. -/
theorem importSymbol_eq_some (hstore : store.WellFormed) (hnested : store.Nested)
    (htraced : store.Traced) (hdotted : Python.ModuleName.IsDotted entry.source)
    (hname : root.name = entry.name) :
    Resolution.importSymbol store entry.projectId entry = some root.id := by
  have hhead : entry.candidates.head? = some root.filePath := by
    rw [hbrings.root_filePath, Import.candidates, hbrings.language]
    exact hdotted.head?_candidates entry.name
  have hcomes : entry.MayComeFrom root.filePath := by
    have hmem := List.mem_of_mem_head? hhead
    have hplain := Import.isPlain_of_mem_candidates hmem
    exact Import.mayComeFrom_iff.mpr ⟨root.filePath, hmem, Path.matchesSuffix_self hplain⟩
  have hadmits : entry.Admits store root :=
    ⟨hbrings.root_mem, hbrings.root_projectId, hname, hcomes⟩
  refine Resolution.importSymbol_of_isChoice hstore (Import.isChoice_of_head? hadmits hhead ?_)
  exact fun other ↦ htraced.distance_le hstore hnested hbrings.root_mem hbrings.root_kind

end Import.BringsModule

/-! ### Calls of what modules declare -/

/-- The call is open, and calls a declaration of a module by the name that the calling file imports
the module under and the name of the declaration. -/
@[mk_iff]
structure Call.IsQualified (store : Store) (call : Call) (entry : Import) (root declared : Symbol) :
    Prop where
  brings : entry.BringsModule store root
  declared_mem : declared ∈ store.symbols
  declared_parentId : declared.parentId = some root.id
  mem : call ∈ store.calls
  isOpen : call.target = none
  projectId : call.projectId = entry.projectId
  filePath : call.filePath = entry.filePath
  callee : call.callee = entry.source ++ "." ++ declared.name
  receiver : Resolution.firstPart entry.source ∉ Resolution.selfReceivers

instance {store : Store} {call : Call} {entry : Import} {root declared : Symbol} :
    Decidable (call.IsQualified store entry root declared) :=
  decidable_of_iff _ (Call.isQualified_iff store call entry root declared).symm

namespace Call.IsQualified

variable {store : Store} {call : Call} {entry : Import} {root declared : Symbol}
  (hcall : call.IsQualified store entry root declared)
include hcall

/-- Only calls by simple names are stored, so that the imported name is dotted. -/
theorem isDotted (htraced : store.Traced) : Python.ModuleName.IsDotted entry.source := by
  have hsimple := htraced.isSimpleCallee hcall.mem
  rw [hcall.callee] at hsimple
  exact Python.ModuleName.isDotted_of_isSimpleCallee hsimple

/-- What the module declares lies in its file. -/
theorem declared_file (hstore : store.WellFormed) (hnested : store.Nested) :
    declared.projectId = root.projectId ∧ declared.filePath = root.filePath := by
  obtain ⟨parent, hparent, hid, hproject, hfile, -, -⟩ :=
    (hnested declared hcall.declared_mem).parent root.id hcall.declared_parentId
  obtain rfl := hstore.symbols.eq_of_id_eq hparent hcall.brings.root_mem hid
  exact ⟨hproject.symm, hfile.symm⟩

/-- The callee is cut into the imported name and the name of the declaration. -/
theorem calleeShape_eq (hstore : store.WellFormed) (hnested : store.Nested)
    (htraced : store.Traced) :
    Resolution.calleeShape call.callee = .dotted entry.source declared.name := by
  have hlanguage : Language.ofPath? declared.filePath = some .python := by
    rw [(hcall.declared_file hstore hnested).2, hcall.brings.root_filePath]
    exact (hcall.isDotted htraced).ofPath?_sourceFile
  have hkind : declared.kind ≠ .module := by
    intro hmodule
    have htop := (hnested.isModule_iff hcall.declared_mem).mp hmodule
    cases htop.symm.trans hcall.declared_parentId
  rw [hcall.callee]
  exact Resolution.calleeShape_append hcall.receiver
    (htraced.not_mem_name hcall.declared_mem hlanguage hkind)

end Call.IsQualified

/-! ### Linking -/

namespace Resolution

variable {store : Store} {call : Call} {entry : Import} {root declared : Symbol} {size : Nat}

/-- Once the import of a module is settled, the imported name stands for the module. -/
theorem resolvedImport_of_bringsModule (hbrings : entry.BringsModule store root)
    {target : Import → Option Int} (hfound : target entry = some root.id) :
    ((Ledger.imports.settleRows target store).fileView entry.projectId
      entry.filePath).resolvedImport entry.source = some root.id := by
  have hopen : Ledger.imports.isOpen entry = true := by
    simp [hbrings.isOpen]
  have hsettled : entry.settle root.id ∈ (Ledger.imports.settleRows target store).imports :=
    Ledger.settle_mem_settleRows hbrings.mem hopen hfound
  have hkept : ∀ before : Import, let after := Ledger.imports.settleWith target before
      after.projectId = before.projectId ∧ after.filePath = before.filePath ∧
        after.localName = before.localName := by
    intro before
    rcases @Ledger.settleWith_cases _ .imports target before with
      hsame | ⟨-, symbolId, -, hchanged⟩
    · simp only [hsame, and_self]
    · simp only [hchanged]
      exact ⟨rfl, rfl, rfl⟩
  rw [← hbrings.localName]
  refine @FileView.resolvedImport_of_unique _ (entry.settle root.id)
    (Store.mem_imports_fileView_iff.mpr ⟨hsettled, rfl, rfl⟩) rfl ?_
  intro other hother hlocal
  obtain ⟨hmem, hproject, hfile⟩ := Store.mem_imports_fileView_iff.mp hother
  obtain ⟨before, hbefore, rfl⟩ := List.mem_map.mp hmem
  obtain ⟨hsameProject, hsameFile, hsameLocal⟩ := hkept before
  obtain rfl := hbrings.unique before hbefore (hsameProject.symm.trans hproject)
    (hsameFile.symm.trans hfile) (hsameLocal.symm.trans hlocal)
  exact Ledger.settleWith_of_some hopen hfound

/-- Once the import of its module is settled, a qualified call reaches the declaration. -/
theorem callSymbol_of_isQualified (hcall : call.IsQualified store entry root declared)
    (hstore : store.WellFormed) (hnested : store.Nested) (htraced : store.Traced)
    {target : Import → Option Int} (hfound : target entry = some root.id) :
    callSymbol (Ledger.imports.settleRows target store) entry.projectId call =
      some declared.id := by
  have hqualifier := resolvedImport_of_bringsModule hcall.brings hfound
  obtain ⟨hproject, hfile⟩ := hcall.declared_file hstore hnested
  have hmember := hstore.childNamed_fileView hcall.declared_mem hcall.declared_parentId
  rw [hproject, hfile, hcall.brings.root_projectId] at hmember
  refine callSymbol_of_dotted (hcall.calleeShape_eq hstore hnested htraced) ?_
    (hstore.symbol?_id hcall.brings.root_mem) ?_
  · rw [hcall.filePath, importedQualifier, hqualifier]
    rfl
  · -- settling imports leaves symbols alone
    exact hmember

/-- Linking settles the import of a module with the module, and a call that is qualified by it with
the declaration inside the module. -/
theorem settled_linked (hcall : call.IsQualified store entry root declared)
    (hstore : store.WellFormed) (hnested : store.Nested) (htraced : store.Traced)
    (hsize : 0 < size) (hname : root.name = entry.name) :
    entry.settle root.id ∈ (linked store entry.projectId size).imports ∧
      call.settle declared.id ∈ (linked store entry.projectId size).calls := by
  have hdotted := hcall.isDotted htraced
  have hsymbol := hcall.brings.importSymbol_eq_some hstore hnested htraced hdotted hname
  have hfound : within .imports entry.projectId size (importSymbol store entry.projectId) entry =
      some root.id := (if_pos ⟨rfl, hsize⟩).trans hsymbol
  have hreached : within .calls entry.projectId size
      (callSymbol (linkedImports store entry.projectId size) entry.projectId) call =
        some declared.id :=
    (if_pos ⟨hcall.projectId, hsize⟩).trans
      (callSymbol_of_isQualified hcall hstore hnested htraced hfound)
  constructor
  · refine @Ledger.settle_mem_settleRows _ .imports _ _ _ _ hcall.brings.mem ?_ hfound
    simp [hcall.brings.isOpen]
  · refine @Ledger.settle_mem_settleRows _ .calls _ _ _ _ hcall.mem ?_ hreached
    simp [hcall.isOpen]

end Resolution

/-- In every store that ordinary runs reach, linking resolves the import of a module under its whole
name to the module of its source file, and a call that is qualified by this name to the declaration
of the module, whatever else the project holds. The module must be called like the last part of the
imported name, which it is unless this part is a second one and `__init__`
(`Import.BringsModule.root_name_iff`). -/
theorem settled_storeAfterSteps_link (steps : List PipelineStep) {size : Nat} (hsize : 0 < size)
    {call : Call} {entry : Import} {root declared : Symbol}
    (hcall : call.IsQualified (storeAfterSteps steps) entry root declared)
    (hname : root.name = entry.name) :
    let later := storeAfterSteps (steps ++ [.link entry.projectId size])
    entry.settle root.id ∈ later.imports ∧ call.settle declared.id ∈ later.calls := by
  intro later
  have hlater : later = Resolution.linked (storeAfterSteps steps) entry.projectId size :=
    storeAfterSteps_link steps entry.projectId size
  rw [hlater]
  have hnested := (nested_wellTargeted_storeAfterSteps steps).1
  exact Resolution.settled_linked hcall (wellFormed_storeAfter _) hnested
    (traced_storeAfterSteps steps) hsize hname

/-- Two files have paths that end like the path of the imported module, and the function that makes
the call is called like the one that it calls. -/
def shadowedModule : List PipelineStep :=
  [.ensureProject "demo" "file:///demo",
    .ingestFile 1 "lib/pkg/util.py" "def run():\n    pass\n",
    .ingestFile 1 "pkg/util.py" "def run():\n    pass\n",
    .ingestFile 1 "app.py" "import pkg.util\n\n\ndef run():\n    pkg.util.run()\n"]

/-- The import is resolved to the module of the shorter path, which was stored later, and the call
to what this module declares. -/
theorem settled_shadowedModule :
    let later := storeAfterSteps (shadowedModule ++ [.link 1 100])
    ⟨1, 1, "app.py", "pkg.util", "util", some "pkg.util", 1, some 3, true⟩ ∈ later.imports ∧
      ⟨1, 1, "app.py", 6, "pkg.util.run", 5, some 4⟩ ∈ later.calls := by
  let entry : Import := ⟨1, 1, "app.py", "pkg.util", "util", some "pkg.util", 1, none, false⟩
  let call : Call := ⟨1, 1, "app.py", 6, "pkg.util.run", 5, none⟩
  have hrows : let store := storeAfterSteps shadowedModule
      ∃ root ∈ store.symbols, ∃ declared ∈ store.symbols, root.id = 3 ∧ declared.id = 4 ∧
        root.name = entry.name ∧ call.IsQualified store entry root declared := by
    decide +kernel
  obtain ⟨root, -, declared, -, hroot, hdeclared, hname, hcall⟩ := hrows
  have hsettled :=
    settled_storeAfterSteps_link shadowedModule (by decide : 0 < 100) hcall hname
  rw [hroot, hdeclared] at hsettled
  exact hsettled

/-! ### Packages -/

/-- A file imports the file of a package by its whole name and calls what it declares. -/
def importedPackage : List PipelineStep :=
  [.ensureProject "demo" "file:///demo",
    .ingestFile 1 "pkg/__init__.py" "def run():\n    pass\n",
    .ingestFile 1 "app.py" "import pkg.__init__\n\npkg.__init__.run()\n"]

/-- The call is qualified by the module of the package, but linking finds neither the module nor
what it declares: the module is called `pkg`. -/
theorem not_settled_importedPackage :
    let earlier := storeAfterSteps importedPackage
    let later := storeAfterSteps (importedPackage ++ [.link 1 100])
    ∃ call ∈ earlier.calls, ∃ entry ∈ earlier.imports, ∃ root ∈ earlier.symbols,
      ∃ declared ∈ earlier.symbols, call.IsQualified earlier entry root declared ∧
        entry.settle root.id ∉ later.imports ∧ call.settle declared.id ∉ later.calls := by
  let entry : Import :=
    ⟨1, 1, "app.py", "pkg.__init__", "__init__", some "pkg.__init__", 1, none, false⟩
  let call : Call := ⟨1, 1, "app.py", 3, "pkg.__init__.run", 3, none⟩
  have hrows : let store := storeAfterSteps importedPackage
      store.imports = [entry] ∧ store.calls = [call] ∧
        (∀ symbol ∈ store.symbols, symbol.name ≠ entry.name) ∧
        Resolution.callSymbol store 1 call = none ∧
        ∃ root ∈ store.symbols, ∃ declared ∈ store.symbols,
          call.IsQualified store entry root declared := by
    decide +kernel
  rw [storeAfterSteps_link]
  generalize storeAfterSteps importedPackage = store at hrows
  obtain ⟨himports, hcalls, hnames, hcall, root, hroot, declared, hdeclared, hqualified⟩ := hrows
  have hentry : Resolution.importSymbol store 1 entry = none := by
    refine Option.eq_none_iff_forall_ne_some.mpr fun symbolId hfound ↦ ?_
    obtain ⟨symbol, hsymbol, -, -, hname, -⟩ := Resolution.importSymbol_cases hfound
    exact hnames symbol hsymbol hname
  have hsame : Resolution.linked store 1 100 = store :=
    Resolution.linked_of_forall_none (by simp [himports, hentry]) (by simp [hcalls, hcall])
  rw [hsame]
  refine ⟨call, hqualified.mem, entry, hqualified.brings.mem, root, hroot, declared, hdeclared,
    hqualified, ?_, ?_⟩
  · rw [himports, List.mem_singleton]
    exact fun hequal ↦ absurd (congrArg Import.isResolved hequal) Bool.noConfusion
  · rw [hcalls, List.mem_singleton]
    exact fun hequal ↦ absurd (congrArg Call.target hequal) (Option.some_ne_none _)

end SymbolGraph
