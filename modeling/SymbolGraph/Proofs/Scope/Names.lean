import SymbolGraph.Proofs.Resolution.Choice
import SymbolGraph.Proofs.Scope.Around
import SymbolGraph.Proofs.Store.Slice

/-!
# What names mean in a file

A name is looked up in the view of a file by going through lists. Here is said, without the lists,
what is found in a nested store: `Store.InScope` follows lexical scope from a symbol outwards,
`Store.IsBest` is the best symbol of a name without a scope, and `Store.BringsInFirst` the first
resolved import of a local name. The look-ups find exactly these (`inScope_iff`,
`bestNamed_eq_some_iff`, `resolvedImport_eq_some_iff`), and nothing when there are none.

That something is found first is a matter of order only for `IsBest` and `BringsInFirst`. A symbol
has one member of a name, and a module one top-level symbol, as parent and name are the key of a
row.
-/

set_option autoImplicit false
set_option relaxedAutoImplicit false

namespace SymbolGraph

open Store (FileScope)

/-- The symbol is a function or a method: what is declared directly inside goes by its bare name
there. -/
def Symbol.IsRoutine (symbol : Symbol) : Prop :=
  symbol.kind = .function ∨ symbol.kind = .method

/-- What symbols of a file are sorted by: the line and the id. -/
def Symbol.position (symbol : Symbol) : ℤ ×ₗ ℤ :=
  toLex (symbol.span.startLine, symbol.id)

/-- What imports of a file are sorted by: the line and the id. -/
def Import.position (entry : Import) : ℤ ×ₗ ℤ :=
  toLex (entry.line, entry.id)

namespace Store

/-- What the store knows about a file. -/
abbrev view (store : Store) (file : FileScope) : FileView :=
  store.fileView file.projectId file.filePath

/-- The symbol lies directly inside the owner and has the name. -/
structure Declares (store : Store) (owner : Symbol) (name : String) (symbol : Symbol) : Prop where
  mem : symbol ∈ store.symbols
  parent : store.IsParent symbol owner
  name : symbol.name = name

/-- The owner is a function or a method that declares the name. -/
def Binds (store : Store) (name : String) (owner : Symbol) : Prop :=
  owner.IsRoutine ∧ ∃ symbol, store.Declares owner name symbol

/-- The symbol of the file has the name and is no module. -/
structure Names (store : Store) (file : FileScope) (name : String) (symbol : Symbol) : Prop where
  mem : symbol ∈ store.symbols
  inFile : symbol.file = file
  name : symbol.name = name
  kind : symbol.kind ≠ .module

/-- The symbol of the name lies directly inside the module of the file. -/
structure NamesTop (store : Store) (file : FileScope) (name : String) (symbol : Symbol) : Prop
    extends store.Names file name symbol where
  top : ∃ root ∈ store.symbols, root.file = file ∧ root.kind = .module ∧
    symbol.parentId = some root.id

/-- What a bare name means inside a symbol: what the innermost function or method around declares
under it, or else what the module does. -/
inductive InScope (store : Store) (source : Symbol) (name : String) : Option Symbol → Prop
  | inside {owner symbol : Symbol} (hnearest : store.IsNearest (store.Binds name) source owner)
      (hdeclares : store.Declares owner name symbol) : InScope store source name (some symbol)
  | atTop {symbol : Symbol} (hnone : ∀ owner, store.IsAround source owner → ¬store.Binds name owner)
      (htop : store.NamesTop source.file name symbol) : InScope store source name (some symbol)
  | unknown (hnone : ∀ owner, store.IsAround source owner → ¬store.Binds name owner)
      (htop : ∀ symbol, ¬store.NamesTop source.file name symbol) : InScope store source name none

/-- Of the symbols of a name in the file, the one at the top level, or else the earliest. -/
inductive IsBest (store : Store) (file : FileScope) (name : String) : Symbol → Prop
  | atTop {symbol : Symbol} (htop : store.NamesTop file name symbol) :
      IsBest store file name symbol
  | earliest {symbol : Symbol} (hnone : ∀ other, ¬store.NamesTop file name other)
      (hnames : store.Names file name symbol)
      (hleast : ∀ other, store.Names file name other → symbol.position ≤ other.position) :
      IsBest store file name symbol

/-- The import of the file is resolved and binds the local name. -/
structure BringsIn (store : Store) (file : FileScope) (name : String) (entry : Import) : Prop where
  mem : entry ∈ store.imports
  inFile : entry.file = file
  isResolved : entry.isResolved = true
  localName : entry.localName = name

/-- It is the first such import. -/
structure BringsInFirst (store : Store) (file : FileScope) (name : String) (entry : Import) : Prop
    extends store.BringsIn file name entry where
  least : ∀ other, store.BringsIn file name other → entry.position ≤ other.position

end Store

/-- Where the values that are found are known, nothing is found when there is none of them. -/
theorem eq_none_iff_of_eq_some_iff {α : Type} {found : Option α} {holds : α → Prop}
    (hfound : ∀ value, found = some value ↔ holds value) :
    found = none ↔ ∀ value, ¬holds value := by
  rw [Option.eq_none_iff_forall_ne_some]
  exact forall_congr' fun value ↦ not_congr (hfound value)

/-! ### Sorted lists -/

/-- In a list that is sorted by a key of its rows, the first row that passes a test is the least. -/
theorem find?_eq_some_iff_least {α κ : Type} [PartialOrder κ] {key : α → κ} {rows : List α}
    (hsorted : rows.Pairwise fun left right ↦ key left ≤ key right)
    (hkey : ∀ left ∈ rows, ∀ right ∈ rows, key left = key right → left = right) {test : α → Bool}
    {row : α} : rows.find? test = some row ↔ (row ∈ rows ∧ test row = true) ∧
      ∀ other, other ∈ rows ∧ test other = true → key row ≤ key other := by
  constructor
  · intro hfound
    exact ⟨⟨List.mem_of_find?_eq_some hfound, List.find?_some hfound⟩,
      fun other hother ↦ le_of_find?_eq_some hsorted hfound hother.1 hother.2⟩
  · rintro ⟨⟨hrow, htest⟩, hleast⟩
    obtain ⟨found, hfound⟩ :=
      Option.isSome_iff_exists.mp (List.find?_isSome.mpr ⟨row, hrow, htest⟩)
    have hmem := List.mem_of_find?_eq_some hfound
    have hle := le_of_find?_eq_some hsorted hfound hrow htest
    have hge := hleast found ⟨hmem, List.find?_some hfound⟩
    rw [hfound, hkey found hmem row hrow (le_antisymm hle hge)]

theorem Symbol.isLE_compareByLine_iff {left right : Symbol} :
    (left.compareByLine right).isLE = true ↔ left.position ≤ right.position := by
  unfold compareByLine position
  simp only [Ordering.isLE_then_iff_or, Prod.Lex.toLex_le_toLex, compare_lt_iff_lt,
    Std.LawfulEqOrd.compare_eq_iff_eq, isLE_compare_iff]

theorem Import.isLE_compareByLine_iff {left right : Import} :
    (left.compareByLine right).isLE = true ↔ left.position ≤ right.position := by
  unfold compareByLine position
  simp only [Ordering.isLE_then_iff_or, Prod.Lex.toLex_le_toLex, compare_lt_iff_lt,
    Std.LawfulEqOrd.compare_eq_iff_eq, isLE_compare_iff]

namespace Store

variable {store : Store} {file : FileScope} {name : String}

theorem mem_symbols_view_iff {symbol : Symbol} :
    symbol ∈ (store.view file).symbols ↔ symbol ∈ store.symbols ∧ symbol.file = file := by
  rw [mem_symbols_fileView_iff, Symbol.file, FileScope.mk.injEq]

theorem mem_imports_view_iff {entry : Import} :
    entry ∈ (store.view file).imports ↔ entry ∈ store.imports ∧ entry.file = file := by
  rw [mem_imports_fileView_iff, Import.file, FileScope.mk.injEq]

/-- What is found first among the symbols of a file is the least by its position. -/
theorem WellFormed.find?_symbols_view (hstore : store.WellFormed) {test : Symbol → Bool}
    {symbol : Symbol} : (store.view file).symbols.find? test = some symbol ↔
      (symbol ∈ (store.view file).symbols ∧ test symbol = true) ∧ ∀ other,
        other ∈ (store.view file).symbols ∧ test other = true →
          symbol.position ≤ other.position := by
  refine find?_eq_some_iff_least ?_ fun left hleft right hright hsame ↦ ?_
  · exact (pairwise_sortBy _).imp Symbol.isLE_compareByLine_iff.mp
  · have hid : left.id = right.id := congrArg (fun key ↦ (ofLex key).2) hsame
    exact hstore.symbols.eq_of_id_eq (mem_symbols_view_iff.mp hleft).1
      (mem_symbols_view_iff.mp hright).1 hid

/-- What is found first among the imports of a file is the least by its position. -/
theorem WellFormed.find?_imports_view (hstore : store.WellFormed) {test : Import → Bool}
    {entry : Import} : (store.view file).imports.find? test = some entry ↔
      (entry ∈ (store.view file).imports ∧ test entry = true) ∧ ∀ other,
        other ∈ (store.view file).imports ∧ test other = true →
          entry.position ≤ other.position := by
  refine find?_eq_some_iff_least ?_ fun left hleft right hright hsame ↦ ?_
  · exact (pairwise_sortBy _).imp Import.isLE_compareByLine_iff.mp
  · have hid : left.id = right.id := congrArg (fun key ↦ (ofLex key).2) hsame
    exact hstore.imports.eq_of_id_eq (mem_imports_view_iff.mp hleft).1
      (mem_imports_view_iff.mp hright).1 hid

/-! ### Imported names -/

theorem bringsIn_iff {entry : Import} : store.BringsIn file name entry ↔
    entry ∈ (store.view file).imports ∧
      (entry.isResolved && entry.localName == name) = true := by
  rw [mem_imports_view_iff, Bool.and_eq_true, beq_iff_eq]
  constructor
  · intro hbrings
    exact ⟨⟨hbrings.mem, hbrings.inFile⟩, hbrings.isResolved, hbrings.localName⟩
  · rintro ⟨⟨hmem, hfile⟩, hresolved, hlocal⟩
    exact ⟨hmem, hfile, hresolved, hlocal⟩

theorem bringsInFirst_iff (hstore : store.WellFormed) {entry : Import} :
    store.BringsInFirst file name entry ↔ ((store.view file).imports.find? fun other ↦
      other.isResolved && other.localName == name) = some entry := by
  rw [hstore.find?_imports_view]
  simp only [← bringsIn_iff]
  exact ⟨fun hfirst ↦ ⟨hfirst.toBringsIn, hfirst.least⟩, fun hboth ↦ ⟨hboth.1, hboth.2⟩⟩

/-- An imported name stands for the symbol of the first import that brings it in. -/
theorem resolvedImport_eq_some_iff (hstore : store.WellFormed) {symbolId : Int} :
    (store.view file).resolvedImport name = some symbolId ↔
      ∃ entry, store.BringsInFirst file name entry ∧ entry.target = some symbolId := by
  rw [FileView.resolvedImport, Option.bind_eq_some_iff]
  simp only [bringsInFirst_iff hstore]

/-- A name stands for no symbol only when no import brings it in. -/
theorem resolvedImport_eq_none_iff (hstore : store.WellFormed) :
    (store.view file).resolvedImport name = none ↔ ∀ entry, ¬store.BringsIn file name entry := by
  constructor
  · intro hnone entry hbrings
    cases hfound : (store.view file).imports.find? fun other ↦
        other.isResolved && other.localName == name with
    | none =>
      obtain ⟨hmem, htest⟩ := bringsIn_iff.mp hbrings
      exact List.find?_eq_none.mp hfound entry hmem htest
    | some first =>
      have hfirst := (bringsInFirst_iff hstore).mpr hfound
      rw [FileView.resolvedImport, hfound, Option.bind_some] at hnone
      have htarget := hstore.isResolved first hfirst.mem
      rw [hfirst.isResolved, hnone] at htarget
      cases htarget
  · intro hnone
    refine Option.eq_none_iff_forall_ne_some.mpr fun symbolId hfound ↦ ?_
    obtain ⟨entry, hfirst, -⟩ := (resolvedImport_eq_some_iff hstore).mp hfound
    exact hnone entry hfirst.toBringsIn

/-! ### Declared names -/

section Nested

variable (hstore : store.WellFormed) (hnested : store.Nested)

include hstore hnested

/-- What lies inside a symbol lies in its file and fits into it. -/
theorem IsParent.fits {child parent : Symbol} (hchild : child ∈ store.symbols)
    (hparent : store.IsParent child parent) :
    parent.file = child.file ∧ child.kind.FitsIn parent.kind := by
  obtain ⟨same, hsame, hid, hproject, hfile, -, hfits⟩ :=
    (hnested child hchild).parent parent.id hparent.2
  obtain rfl := hstore.symbols.eq_of_id_eq hsame hparent.1 hid
  refine ⟨?_, hfits⟩
  rw [Symbol.file, hproject, hfile, Symbol.file]

theorem childNamed_eq_some_iff {owner symbol : Symbol}
    (howner : owner ∈ (store.view file).symbols) :
    (store.view file).childNamed owner.id name = some symbol ↔
      store.Declares owner name symbol := by
  obtain ⟨hstored, rfl⟩ := mem_symbols_view_iff.mp howner
  constructor
  · intro hfound
    obtain ⟨hmem, hparent, hname⟩ := FileView.mem_of_childNamed_eq_some hfound
    exact ⟨(mem_symbols_view_iff.mp hmem).1, ⟨hstored, hparent⟩, hname⟩
  · rintro ⟨hmem, hparent, rfl⟩
    rw [(hparent.fits hstore hnested hmem).1]
    exact hstore.childNamed_fileView hmem hparent.2

theorem childNamed_eq_none_iff {owner : Symbol} (howner : owner ∈ (store.view file).symbols) :
    (store.view file).childNamed owner.id name = none ↔
      ∀ symbol, ¬store.Declares owner name symbol :=
  eq_none_iff_of_eq_some_iff fun _ ↦ childNamed_eq_some_iff hstore hnested howner

/-- The module of a file is known by its id. -/
theorem moduleId?_view {root : Symbol} (hroot : root ∈ store.symbols)
    (hkind : root.kind = .module) : (store.view root.file).moduleId? = some root.id := by
  have htop := (hnested.isModule_iff hroot).mp hkind
  unfold FileView.moduleId?
  cases hfound : (store.view root.file).symbols.find? fun symbol ↦
      symbol.parentId.isNone && symbol.kind == .module with
  | none =>
    have hmem := mem_symbols_view_iff.mpr ⟨hroot, rfl⟩
    refine absurd ?_ (List.find?_eq_none.mp hfound root hmem)
    rw [htop, hkind]
    rfl
  | some other =>
    obtain ⟨hother, hfile⟩ := mem_symbols_view_iff.mp (List.mem_of_find?_eq_some hfound)
    have htest := List.find?_some hfound
    rw [Bool.and_eq_true, Option.isNone_iff_eq_none] at htest
    rw [hnested.root_unique hstore hother hroot (congrArg FileScope.projectId hfile)
      (congrArg FileScope.filePath hfile) htest.1 htop]
    rfl

/-- In a file, the symbols of a name at the top level lie directly inside the module. -/
theorem namesTop_iff {symbol : Symbol} : store.NamesTop file name symbol ↔
    symbol ∈ (store.view file).symbols ∧
      (FileView.isNamed name symbol && (store.view file).isTopLevel symbol) = true := by
  rw [mem_symbols_view_iff, Bool.and_eq_true, FileView.isNamed_eq_true_iff, FileView.isTopLevel,
    Bool.or_eq_true, Option.isNone_iff_eq_none, beq_iff_eq]
  constructor
  · rintro ⟨⟨hmem, hfile, hname, hkind⟩, root, hroot, rfl, hrootKind, hparent⟩
    refine ⟨⟨hmem, hfile⟩, ⟨hname, hkind⟩, Or.inr ?_⟩
    rw [hparent, moduleId?_view hstore hnested hroot hrootKind]
  · rintro ⟨⟨hmem, hfile⟩, ⟨hname, hkind⟩, hplace⟩
    have hinside : symbol.parentId ≠ none := fun hnone ↦
      hkind ((hnested.isModule_iff hmem).mpr hnone)
    obtain ⟨rootId, hparent⟩ := Option.ne_none_iff_exists'.mp hinside
    have hmodule := (hplace.resolve_left hinside).symm.trans hparent
    obtain ⟨root, hroot, rfl, hrootKind⟩ := FileView.exists_of_moduleId?_eq_some hmodule
    obtain ⟨hrootMem, hrootFile⟩ := mem_symbols_view_iff.mp hroot
    exact ⟨⟨hmem, hfile, hname, hkind⟩, root, hrootMem, hrootFile, hrootKind, hparent⟩

/-- A file has one symbol of a name at the top level. -/
theorem NamesTop.unique {first second : Symbol} (hfirst : store.NamesTop file name first)
    (hsecond : store.NamesTop file name second) : first = second := by
  obtain ⟨root, hroot, hrootFile, hrootKind, hparent⟩ := hfirst.top
  obtain ⟨other, hother, hotherFile, hotherKind, hotherParent⟩ := hsecond.top
  have hfiles := hrootFile.trans hotherFile.symm
  obtain rfl := hnested.root_unique hstore hroot hother (congrArg FileScope.projectId hfiles)
    (congrArg FileScope.filePath hfiles) ((hnested.isModule_iff hroot).mp hrootKind)
    ((hnested.isModule_iff hother).mp hotherKind)
  obtain ⟨hproject, hfile⟩ := FileScope.mk.inj (hfirst.inFile.trans hsecond.inFile.symm)
  refine hstore.symbols.eq_of_key_eq hfirst.mem hsecond.mem ?_
  rw [Symbol.key, Symbol.key, hproject, hfile, hfirst.name, hsecond.name,
    hstore.parentKey first hfirst.mem, hstore.parentKey second hsecond.mem, hparent, hotherParent]

theorem topNamed_eq_some_iff {symbol : Symbol} : ((store.view file).symbols.find? fun other ↦
      FileView.isNamed name other && (store.view file).isTopLevel other) = some symbol ↔
    store.NamesTop file name symbol := by
  rw [hstore.find?_symbols_view]
  simp only [← namesTop_iff hstore hnested]
  refine ⟨And.left, fun htop ↦ ⟨htop, fun other hother ↦ ?_⟩⟩
  rw [htop.unique hstore hnested hother]

theorem topNamed_eq_none_iff : ((store.view file).symbols.find? fun other ↦
      FileView.isNamed name other && (store.view file).isTopLevel other) = none ↔
    ∀ symbol, ¬store.NamesTop file name symbol :=
  eq_none_iff_of_eq_some_iff fun _ ↦ topNamed_eq_some_iff hstore hnested

/-! ### The best symbol of a name -/

omit hstore hnested in
theorem names_iff {symbol : Symbol} : store.Names file name symbol ↔
    symbol ∈ (store.view file).symbols ∧ FileView.isNamed name symbol = true := by
  rw [mem_symbols_view_iff, FileView.isNamed_eq_true_iff]
  constructor
  · intro hnames
    exact ⟨⟨hnames.mem, hnames.inFile⟩, hnames.name, hnames.kind⟩
  · rintro ⟨⟨hmem, hfile⟩, hname, hkind⟩
    exact ⟨hmem, hfile, hname, hkind⟩

/-- What a symbol declares under a name is one of the symbols of the name in its file. -/
theorem Declares.names {owner symbol : Symbol} {name : String}
    (hdeclares : store.Declares owner name symbol) : store.Names owner.file name symbol := by
  obtain ⟨hfile, hfits⟩ := hdeclares.parent.fits hstore hnested hdeclares.mem
  exact ⟨hdeclares.mem, hfile.symm, hdeclares.name, hfits.ne_module⟩

theorem bestNamed_eq_some_iff {symbol : Symbol} :
    (store.view file).bestNamed name = some symbol ↔ store.IsBest file name symbol := by
  rw [FileView.bestNamed, Option.or_eq_some_iff, topNamed_eq_some_iff hstore hnested,
    topNamed_eq_none_iff hstore hnested, hstore.find?_symbols_view]
  simp only [← names_iff]
  constructor
  · rintro (htop | ⟨hnone, hnames, hleast⟩)
    · exact .atTop htop
    · exact .earliest hnone hnames hleast
  · intro hbest
    cases hbest with
    | atTop htop => exact Or.inl htop
    | earliest hnone hnames hleast => exact Or.inr ⟨hnone, hnames, hleast⟩

omit hstore hnested in
theorem bestNamed_eq_none_iff :
    (store.view file).bestNamed name = none ↔ ∀ symbol, ¬store.Names file name symbol := by
  rw [FileView.bestNamed, Option.or_eq_none_iff, List.find?_eq_none, List.find?_eq_none]
  simp only [names_iff, not_and]
  refine ⟨And.right, fun hnone ↦ ⟨fun symbol hmem hboth ↦ ?_, hnone⟩⟩
  exact hnone symbol hmem (Bool.and_eq_true_iff.mp hboth).1

/-! ### Names in scope -/

/-- Looking for a name directly inside a symbol that opens a scope finds what a function or method
declares: nothing lies inside a variable. -/
theorem childInScope_eq_some_iff {owner symbol : Symbol}
    (howner : owner ∈ (store.view file).symbols) :
    (if FileView.opensScope owner then (store.view file).childNamed owner.id name else none) =
      some symbol ↔ owner.IsRoutine ∧ store.Declares owner name symbol := by
  rw [Option.ite_none_right_eq_some, childNamed_eq_some_iff hstore hnested howner]
  refine and_congr_left fun hdeclares ↦ ?_
  have hvariable := (hdeclares.parent.fits hstore hnested hdeclares.mem).2.ne_variable
  rw [FileView.opensScope, Symbol.IsRoutine]
  cases hkind : owner.kind with
  | module => simp
  | classType => simp
  | function => simp
  | method => simp
  | «variable» => exact absurd hkind hvariable

/-- A symbol of the file has an answer for the name exactly when it binds it. -/
theorem childInScope_ne_none_iff {owner : Symbol} (howner : owner ∈ (store.view file).symbols) :
    (if FileView.opensScope owner then (store.view file).childNamed owner.id name else none) ≠
      none ↔ store.Binds name owner := by
  rw [Option.ne_none_iff_exists']
  simp only [childInScope_eq_some_iff hstore hnested howner, exists_and_left, Binds]

variable {source : Symbol} (hsource : source ∈ store.symbols)

include hsource

theorem mem_symbols_view_of_isAround {symbol : Symbol} (haround : store.IsAround source symbol) :
    symbol ∈ (store.view source.file).symbols := by
  have hview := mem_symbols_view_iff.mpr ⟨hsource, rfl⟩
  exact FileView.mem_of_mem_enclosing ((mem_enclosing_iff hstore hnested hview).mpr haround)

theorem innerNamed_eq_some_iff {symbol : Symbol} :
    (((store.view source.file).enclosing source.id).findSome? fun owner ↦
      if FileView.opensScope owner then (store.view source.file).childNamed owner.id name
      else none) = some symbol ↔
    ∃ owner, store.IsNearest (store.Binds name) source owner ∧
      store.Declares owner name symbol := by
  have hview := mem_symbols_view_iff.mpr ⟨hsource, rfl⟩
  have haround := fun symbol ↦
    @mem_symbols_view_of_isAround store hstore hnested source hsource symbol
  rw [findSome?_enclosing_eq_some_iff hstore hnested hview]
  refine exists_congr fun owner ↦ ?_
  rw [IsNearest.congr fun other hother ↦
    childInScope_ne_none_iff hstore hnested (haround other hother)]
  refine and_congr_right fun hnearest ↦ ?_
  rw [childInScope_eq_some_iff hstore hnested (haround owner hnearest.around)]
  exact and_iff_right hnearest.holds.1

theorem innerNamed_eq_none_iff :
    (((store.view source.file).enclosing source.id).findSome? fun owner ↦
      if FileView.opensScope owner then (store.view source.file).childNamed owner.id name
      else none) = none ↔
    ∀ owner, store.IsAround source owner → ¬store.Binds name owner := by
  have hview := mem_symbols_view_iff.mpr ⟨hsource, rfl⟩
  rw [List.findSome?_eq_none_iff]
  refine forall_congr' fun owner ↦ ?_
  rw [mem_enclosing_iff hstore hnested hview]
  refine imp_congr_right fun haround ↦ ?_
  have howner := mem_symbols_view_of_isAround hstore hnested hsource haround
  rw [← childInScope_ne_none_iff hstore hnested howner, not_not]

/-- The look-up by scope finds what is in scope, and nothing when nothing is. -/
theorem inScope_iff {found : Option Symbol} : store.InScope source name found ↔
    (store.view source.file).scopedNamed name source.id = found := by
  unfold FileView.scopedNamed
  constructor
  · intro hscope
    cases hscope with
    | inside hnearest hdeclares =>
      rw [(innerNamed_eq_some_iff hstore hnested hsource).mpr ⟨_, hnearest, hdeclares⟩]
      rfl
    | atTop hnone htop =>
      rw [(innerNamed_eq_none_iff hstore hnested hsource).mpr hnone, Option.none_or]
      exact (topNamed_eq_some_iff hstore hnested).mpr htop
    | unknown hnone htop =>
      rw [(innerNamed_eq_none_iff hstore hnested hsource).mpr hnone, Option.none_or]
      exact (topNamed_eq_none_iff hstore hnested).mpr htop
  · rintro rfl
    cases hinner : ((store.view source.file).enclosing source.id).findSome? fun owner ↦
        if FileView.opensScope owner then (store.view source.file).childNamed owner.id name
        else none with
    | some symbol =>
      obtain ⟨owner, hnearest, hdeclares⟩ :=
        (innerNamed_eq_some_iff hstore hnested hsource).mp hinner
      exact .inside hnearest hdeclares
    | none =>
      have hnone := (innerNamed_eq_none_iff hstore hnested hsource).mp hinner
      rw [Option.none_or]
      cases htop : (store.view source.file).symbols.find? fun symbol ↦
          FileView.isNamed name symbol && (store.view source.file).isTopLevel symbol with
      | some symbol => exact .atTop hnone ((topNamed_eq_some_iff hstore hnested).mp htop)
      | none => exact .unknown hnone ((topNamed_eq_none_iff hstore hnested).mp htop)

/-- The look-up for the class around a symbol finds the nearest one. -/
theorem enclosingClass_eq_some_iff {owner : Symbol} :
    (store.view source.file).enclosingClass source.id = some owner ↔
      store.IsNearest (fun symbol ↦ symbol.kind = .classType) source owner := by
  have hview := mem_symbols_view_iff.mpr ⟨hsource, rfl⟩
  rw [FileView.enclosingClass, find?_enclosing_eq_some_iff hstore hnested hview]
  simp only [beq_iff_eq]

end Nested

end Store

end SymbolGraph
