import SymbolGraph.Proofs.Extraction.Record
import SymbolGraph.Proofs.Extraction.WellFormed
import SymbolGraph.Proofs.Python.Parser.Statement

/-!
# What is recorded of a Python program

Nothing is lost of a Python program and nothing is recorded twice (`Python.IsExact`). Its symbols
are its definitions, wherever they stand, and the variables that are assigned outside all
definitions; its calls are those of simple names that are not made in type parameters or return
annotations. Both are recorded in source order, and with the innermost definition around them. This
holds of every file that is accepted (`SourceFile.isExact_extract`).

The invariant of the walk is that its scope says what is around the address at which it is
(`Scope.IsAt`). The walk records symbols when their headings are done, and it is in source order
because nothing in a heading defines a symbol; that is a property of the trees that are read from
texts (`areStatements_of_parse?`).
-/

set_option autoImplicit false
set_option relaxedAutoImplicit false

namespace SymbolGraph.Python

/-- The type parameters and the return annotation of a definition are read by no extraction. -/
def isTypeHint (address : Address) : Bool :=
  address.any fun step ↦ step.part = .typeParameters || step.part = .returns

namespace Tree

instance : SyntaxNode Tree where
  held
    | .call _ _ parts, .piece => parts
    | .function _ _ _ typeParameters _ _ _, .typeParameters => typeParameters
    | .function _ _ _ _ parameters _ _, .parameters => parameters
    | .function _ _ _ _ _ returns _, .returns => returns
    | .function _ _ _ _ _ _ body, .functionBody => body
    | .classDefinition _ _ typeParameters _ _, .typeParameters => typeParameters
    | .classDefinition _ _ _ bases _, .bases => bases
    | .classDefinition _ _ _ _ body, .classBody => body
    | .assignment _ _ parts, .piece => parts
    | _, _ => []
  sizeOf_lt := by
    intro node child part hchild
    split at hchild
    all_goals first
      | exact absurd hchild List.not_mem_nil
      | (have hlt := List.sizeOf_lt_of_mem hchild
         simp
         omega)

/-- A function whose nearest definition around it is a class is a method; an assignment defines a
variable only outside all definitions. -/
def definition? (address : Address) : Tree → Option Definition
  | .function name signature extent _ _ _ _ =>
    some ⟨if address.isInClass then .method else .function, name.toLabel, some signature, extent⟩
  | .classDefinition name extent _ _ _ => some ⟨.classType, name.toLabel, none, extent⟩
  | .assignment name extent _ =>
    if address.definition? = none then some ⟨.variable, name.toLabel, none, extent⟩ else none
  | _ => none

/-- A call of a simple name that is not made in an annotation. -/
def mention? (address : Address) : Tree → Option Mention
  | .call callee line _ =>
    if isSimpleCallee callee && !isTypeHint address then some ⟨callee, line⟩ else none
  | _ => none

/-- How Python trees are read. -/
def reading : NodeReading Tree := ⟨definition?, mention?⟩

theorem mention?_of_isTypeHint {address : Address} (hhint : isTypeHint address = true)
    (tree : Tree) : tree.mention? address = none := by
  cases tree with
  | call => simp [mention?, hhint]
  | _ => rfl

section Occurrences

variable (address : Address) (name : Identifier) (extent : Extent)

theorem occurrences_call (callee : String) (line : Int) (parts : List Tree) :
    occurrences address (call callee line parts) =
      ⟨address, call callee line parts⟩ :: occurrencesIn address (stepsTo .piece 0 parts) := by
  rw [occurrences_eq]
  simp [children, Part.heading, Part.interior, SyntaxNode.held]

theorem occurrences_function (signature : String)
    (typeParameters parameters returns body : List Tree) :
    occurrences address
        (function name signature extent typeParameters parameters returns body) =
      occurrencesIn address (stepsTo .typeParameters 0 typeParameters) ++
        (occurrencesIn address (stepsTo .parameters 0 parameters) ++
          (occurrencesIn address (stepsTo .returns 0 returns) ++
            ⟨address, function name signature extent typeParameters parameters returns body⟩ ::
              occurrencesIn address (stepsTo .functionBody 0 body))) := by
  rw [occurrences_eq]
  simp [children, Part.heading, Part.interior, SyntaxNode.held]

theorem occurrences_classDefinition (typeParameters bases body : List Tree) :
    occurrences address (classDefinition name extent typeParameters bases body) =
      occurrencesIn address (stepsTo .typeParameters 0 typeParameters) ++
        (occurrencesIn address (stepsTo .bases 0 bases) ++
          ⟨address, classDefinition name extent typeParameters bases body⟩ ::
            occurrencesIn address (stepsTo .classBody 0 body)) := by
  rw [occurrences_eq]
  simp [children, Part.heading, Part.interior, SyntaxNode.held]

theorem occurrences_assignment (parts : List Tree) :
    occurrences address (assignment name extent parts) =
      ⟨address, assignment name extent parts⟩ ::
        occurrencesIn address (stepsTo .piece 0 parts) := by
  rw [occurrences_eq]
  simp [children, Part.heading, Part.interior, SyntaxNode.held]

theorem occurrences_importModules (modules : List ImportedModule) (line : Int) :
    occurrences address (importModules modules line) = [⟨address, importModules modules line⟩] := by
  rw [occurrences_eq]
  simp [children, Part.heading, Part.interior, SyntaxNode.held]

theorem occurrences_importNames (source : String) (names : List ImportedName) (line : Int) :
    occurrences address (importNames source names line) =
      [⟨address, importNames source names line⟩] := by
  rw [occurrences_eq]
  simp [children, Part.heading, Part.interior, SyntaxNode.held]

end Occurrences

/-- The parts of an expression are expressions. -/
theorem IsExpression.held {outer : Tree} (part : Part) (houter : outer.IsExpression) :
    ∀ child ∈ SyntaxNode.held outer part, child.IsExpression := by
  cases houter with
  | call hparts =>
    intro child hchild
    cases part with
    | piece => exact hparts child hchild
    | _ => cases hchild

/-- A statement holds expressions, and statements in a body. -/
theorem IsStatement.held {outer : Tree} (part : Part) (houter : outer.IsStatement) :
    ∀ child ∈ SyntaxNode.held outer part,
      child.IsExpression ∨ part.isBody = true ∧ child.IsStatement := by
  intro child hchild
  cases houter with
  | expression hexpression => exact .inl (hexpression.held part child hchild)
  | function htypes hparameters hreturns hbody =>
    cases part with
    | typeParameters => exact .inl (htypes child hchild)
    | parameters => exact .inl (hparameters child hchild)
    | returns => exact .inl (hreturns child hchild)
    | functionBody => exact .inr ⟨rfl, hbody child hchild⟩
    | _ => cases hchild
  | classDefinition htypes hbases hbody =>
    cases part with
    | typeParameters => exact .inl (htypes child hchild)
    | bases => exact .inl (hbases child hchild)
    | classBody => exact .inr ⟨rfl, hbody child hchild⟩
    | _ => cases hchild
  | assignment hparts =>
    cases part with
    | piece => exact .inl (hparts child hchild)
    | _ => cases hchild
  | importModules => cases part <;> cases hchild
  | importNames => cases part <;> cases hchild

/-- An expression defines nothing. -/
theorem IsExpression.definition? {tree : Tree} (htree : tree.IsExpression) (address : Address) :
    tree.definition? address = none := by
  cases htree
  rfl

end Tree

/-! ### The walk -/

variable {number : Option Address → Nat} {scope : Scope} {address : Address}

/-- The scope says what is around the address. -/
structure Scope.IsAt (number : Option Address → Nat) (scope : Scope) (address : Address) :
    Prop where
  owner : scope.owner = number address.definition?
  inClass : scope.inClass = address.isInClass
  atModule : scope.atModule = address.definition?.isNone
  isTypeHint : isTypeHint address = false

namespace Scope.IsAt

/-- No definition is around the top of a program. -/
theorem top (hmodule : number none = 0) (index : Nat) :
    Scope.top.IsAt number [⟨.piece, index⟩] :=
  ⟨hmodule.symm, rfl, rfl, rfl⟩

/-- What is in no body and in no annotation is where the tree itself is. -/
theorem part (hscope : scope.IsAt number address) {part : Part} (hbody : part.isBody = false)
    (hpart : part ∉ [Part.typeParameters, .returns]) (index : Nat) :
    scope.IsAt number (⟨part, index⟩ :: address) := by
  obtain ⟨howner, hclass, hmodule, hhint⟩ := hscope
  simp only [List.mem_cons, List.not_mem_nil, or_false, not_or] at hpart
  refine ⟨?_, ?_, ?_, ?_⟩
  · rwa [Address.definition?_cons hbody]
  · rwa [Address.isInClass_cons hbody]
  · rwa [Address.definition?_cons hbody]
  · simpa [Python.isTypeHint, hpart] using hhint

/-- The body of a function is inside it. -/
theorem functionBody (hscope : scope.IsAt number address) (index : Nat) :
    (Scope.ofFunction (number (some address))).IsAt number (⟨.functionBody, index⟩ :: address) :=
  ⟨rfl, rfl, rfl, hscope.isTypeHint⟩

/-- The body of a class is inside it. -/
theorem classBody (hscope : scope.IsAt number address) (index : Nat) :
    (Scope.ofClass (number (some address))).IsAt number (⟨.classBody, index⟩ :: address) :=
  ⟨rfl, rfl, rfl, hscope.isTypeHint⟩

theorem functionKind (hscope : scope.IsAt number address) :
    scope.functionKind = if address.isInClass then .method else .function := by
  rw [Scope.functionKind, hscope.inClass]

end Scope.IsAt

/-- Of an annotation nothing is recorded. -/
theorem records_typeHints {part : Part} (hpart : part = .typeParameters ∨ part = .returns)
    {trees : List Tree} (htrees : AreExpressions trees) (extraction : Extraction) :
    Records Tree.reading number (occurrencesIn address (stepsTo part 0 trees)) extraction
      extraction := by
  refine .passedOver (fun node hnode ↦ ?_) (fun node hnode ↦ ?_) rfl rfl
  · obtain ⟨⟨step, tree⟩, hstep, hmem⟩ := mem_occurrencesIn_iff.mp hnode
    have htree := htrees tree (List.mem_of_getElem? (mem_stepsTo_iff.mp hstep).2)
    exact (forall_mem_occurrences (fun _ part houter ↦ houter.held part) htree hmem).definition? _
  · obtain ⟨⟨step, tree⟩, hstep, hmem⟩ := mem_occurrencesIn_iff.mp hnode
    obtain ⟨hpart', -⟩ := mem_stepsTo_iff.mp hstep
    have hhint : isTypeHint node.address = true := by
      refine List.any_eq_true.mpr
        ⟨step, (suffix_of_mem_occurrences hmem).subset List.mem_cons_self, ?_⟩
      rcases hpart with rfl | rfl
      · simp [hpart']
      · simp [hpart']
    exact Tree.mention?_of_isTypeHint hhint _

/-- Imports are recorded apart from symbols and calls. -/
theorem importModules_fold (line : Int) (modules : List ImportedModule) (extraction : Extraction) :
    (modules.foldl (ImportedModule.extract line) extraction).declarations =
        extraction.declarations ∧
      (modules.foldl (ImportedModule.extract line) extraction).calls = extraction.calls := by
  induction modules generalizing extraction with
  | nil => exact ⟨rfl, rfl⟩
  | cons module rest ih => exact ih _

mutual

/-- A walk through a tree records what occurs in it. -/
theorem records_extract (package : List String) : ∀ (tree : Tree) (scope : Scope)
    (address : Address) (extraction : Extraction), tree.IsStatement → scope.IsAt number address →
      Records Tree.reading number (occurrences address tree) extraction
        (tree.extract package scope extraction)
  | .call callee line parts, scope, address, extraction, htree, hscope => by
    have hparts := Tree.isStatement_call_iff.mp htree
    rw [Tree.occurrences_call, Tree.extract]
    have hmention : (Tree.call callee line parts).mention? address =
        if isSimpleCallee callee then some ⟨callee, line⟩ else none := by
      simp [Tree.mention?, hscope.isTypeHint]
    refine .mention rfl hmention ?_
    rw [← hscope.owner]
    exact records_extractAll package parts scope address .piece 0 _ hparts.areStatements
      (hscope.part rfl (by decide))
  | .function name signature extent typeParameters parameters returns body, scope, address,
      extraction, htree, hscope => by
    obtain ⟨htypes, hparameters, hreturns, hbody⟩ := Tree.isStatement_function_iff.mp htree
    have houtside := records_extractAll package parameters scope address .parameters 0 extraction
      hparameters.areStatements (hscope.part rfl (by decide))
    rw [Tree.occurrences_function, Tree.extract, hscope.owner, hscope.functionKind]
    refine (records_typeHints (.inl rfl) htypes _).append (houtside.append
      ((records_typeHints (.inr rfl) hreturns _).append (.define rfl rfl fun hnumber ↦ ?_)))
    rw [← hnumber]
    exact records_extractAll package body _ address .functionBody 0 _ hbody hscope.functionBody
  | .classDefinition name extent typeParameters bases body, scope, address, extraction, htree,
      hscope => by
    obtain ⟨htypes, hbases, hbody⟩ := Tree.isStatement_classDefinition_iff.mp htree
    have houtside := records_extractAll package bases scope address .bases 0 extraction
      hbases.areStatements (hscope.part rfl (by decide))
    rw [Tree.occurrences_classDefinition, Tree.extract, hscope.owner]
    refine (records_typeHints (.inl rfl) htypes _).append (houtside.append
      (.define rfl rfl fun hnumber ↦ ?_))
    rw [← hnumber]
    exact records_extractAll package body _ address .classBody 0 _ hbody hscope.classBody
  | .assignment name extent parts, scope, address, extraction, htree, hscope => by
    have hparts := Tree.isStatement_assignment_iff.mp htree
    have hrest := fun declared ↦ records_extractAll package parts scope address .piece 0 declared
      hparts.areStatements (hscope.part rfl (by decide))
    rw [Tree.occurrences_assignment, Tree.extract, hscope.atModule]
    cases houter : address.definition? with
    | none =>
      have hdefinition : (Tree.assignment name extent parts).definition? address =
          some ⟨.variable, name.toLabel, none, extent⟩ := by
        simp [Tree.definition?, houter]
      rw [hscope.owner]
      exact .define hdefinition rfl fun _ ↦ hrest _
    | some outer =>
      have hdefinition : (Tree.assignment name extent parts).definition? address = none := by
        simp [Tree.definition?, houter]
      exact .skip hdefinition rfl (hrest extraction)
  | .importModules modules line, _, address, extraction, _, _ => by
    obtain ⟨hdeclarations, hcalls⟩ := importModules_fold line modules extraction
    rw [Tree.occurrences_importModules, Tree.extract]
    exact .passedOver (List.forall_mem_singleton.mpr rfl) (List.forall_mem_singleton.mpr rfl)
      hdeclarations hcalls
  | .importNames source names line, _, address, extraction, _, _ => by
    rw [Tree.occurrences_importNames, Tree.extract]
    exact .passedOver (List.forall_mem_singleton.mpr rfl) (List.forall_mem_singleton.mpr rfl)
      rfl rfl

/-- A walk through trees that stand in a row records what occurs in them. -/
theorem records_extractAll (package : List String) : ∀ (trees : List Tree) (scope : Scope)
    (address : Address) (part : Part) (index : Nat) (extraction : Extraction),
    AreStatements trees → (∀ index, scope.IsAt number (⟨part, index⟩ :: address)) →
      Records Tree.reading number (occurrencesIn address (stepsTo part index trees)) extraction
        (extractAll package scope extraction trees)
  | [], _, _, _, _, extraction, _, _ => .nil extraction
  | tree :: rest, scope, address, part, index, extraction, htrees, hscope => by
    obtain ⟨htree, hrest⟩ := List.forall_mem_cons.mp htrees
    rw [stepsTo_cons, occurrencesIn_cons, extractAll]
    exact (records_extract package tree scope _ extraction htree (hscope index)).append
      (records_extractAll package rest scope address part (index + 1) _ hrest hscope)

end

/-! ### Programs -/

/-- Nothing in the heading of a statement defines a symbol, so definitions are listed in source
order. -/
theorem isListOf_definitions {program : List Tree} (hprogram : AreStatements program) :
    IsListOf Address.Before program Tree.definition?
      (pick Tree.definition? (listing program)) := by
  refine isListOf_pick_before fun hinner houter hheading ↦ .inl ?_
  have hheld : ∀ (outer : Tree) (part : Part), outer.IsStatement →
      ∀ child ∈ SyntaxNode.held outer part, child.IsStatement :=
    fun outer part hstatement child hchild ↦ (hstatement.held part child hchild).elim
      .expression And.right
  have hstatement := houter.of_top hprogram hheld
  obtain ⟨step, hpart, hsuffix⟩ := hheading
  obtain ⟨child, hchild, hstands⟩ := hinner.exists_held hsuffix houter
  have hexpression : child.IsExpression := by
    refine (hstatement.held step.part child (List.mem_of_getElem? hchild)).resolve_right ?_
    rintro ⟨hbody, -⟩
    cases (Part.isBody_of_mem_heading hpart).symm.trans hbody
  exact (hinner.of_suffix (fun _ part houter ↦ houter.held part) hsuffix hstands
    hexpression).definition? _

/-- A call has no heading, so calls are listed in source order. -/
theorem isListOf_mentions (program : List Tree) :
    IsListOf Address.Before program Tree.mention? (pick Tree.mention? (listing program)) := by
  refine isListOf_pick_before fun {first second inner outer} hinner houter hheading ↦ .inr ?_
  obtain ⟨step, hpart, hsuffix⟩ := hheading
  obtain ⟨child, hchild, -⟩ := hinner.exists_held hsuffix houter
  cases outer with
  | call callee line parts =>
    obtain ⟨part, index⟩ := step
    cases part with
    | piece => simp [Part.heading] at hpart
    | _ => cases hchild
  | _ => rfl

/-- A walk through a program adds what stands in it to the module of the file. -/
theorem adds_extraction (path source : String) {program : List Tree}
    (hprogram : AreStatements program) :
    Adds (numberIn (pick Tree.definition? (listing program)))
      (.ofModule (ModuleName.leaf (ModuleName.ofPath path)) source)
      (extraction path source program) (pick Tree.definition? (listing program))
      (pick Tree.mention? (listing program)) := by
  have hrecords : ∀ number : Option Address → Nat, number none = 0 →
      Records Tree.reading number (listing program)
        (.ofModule (ModuleName.leaf (ModuleName.ofPath path)) source)
        (extraction path source program) :=
    fun _ hmodule ↦ records_extractAll _ program _ _ _ _ _ hprogram (Scope.IsAt.top hmodule)
  exact Records.adds_listing hrecords rfl

/-- What has a body is a definition. -/
theorem Tree.definition?_ne_none_of_body {outer child : Tree} {part : Part}
    (hbody : part.isBody = true) (hchild : child ∈ SyntaxNode.held outer part)
    (address : Address) : outer.definition? address ≠ none := by
  cases outer with
  | function => exact Option.some_ne_none _
  | classDefinition => exact Option.some_ne_none _
  | _ => rcases Part.eq_of_isBody hbody with rfl | rfl <;> cases hchild

/-- Definitions and calls are recorded in source order, all of them and nothing else; the functions
that are in a class are methods. -/
structure IsExact (program : List Tree) (read : Extraction) : Prop where
  recorded : ∃ definitions mentions,
    IsRecord Address.Before Tree.reading program definitions mentions read
  isMethod_iff : ∀ declaration ∈ read.declarations,
    declaration.kind = .function ∨ declaration.kind = .method →
      (declaration.kind = .method ↔ ∃ tag owner, declaration.parent = some tag ∧
        read.declarations[tag]? = some owner ∧ owner.kind = .classType)

/-- What is read of a program is what stands in it. -/
theorem isExact_extraction (path source : String) {program : List Tree}
    (hprogram : AreStatements program) : IsExact program (extraction path source program) where
  recorded := ⟨_, _, isRecord_pick (isListOf_definitions hprogram) (isListOf_mentions program)
    (adds_extraction path source hprogram)
    fun _ _ hbody hchild ↦ Tree.definition?_ne_none_of_body hbody hchild _⟩
  isMethod_iff := by
    intro declaration hdeclaration hkind
    have hwell := isWellFormed_extraction path source program
    obtain ⟨root, rest, hdeclarations, hroot, -, hrest⟩ := hwell.root
    have hparent : declaration.parent ≠ none := by
      rw [hdeclarations] at hdeclaration
      rcases List.mem_cons.mp hdeclaration with rfl | hmem
      · rw [hroot] at hkind
        rcases hkind with hkind | hkind
        · cases hkind
        · cases hkind
      · exact (hrest declaration hmem).2
    obtain ⟨tag, hparent⟩ := Option.ne_none_iff_exists'.mp hparent
    obtain ⟨owner, howner, -, -, hmethod, -, hfunction⟩ :=
      hwell.parents declaration hdeclaration tag hparent
    constructor
    · exact fun hkind ↦ ⟨tag, owner, hparent, howner, hmethod hkind⟩
    · rintro ⟨tag', owner', hparent', howner', hclass⟩
      obtain rfl := Option.some.inj (hparent.symm.trans hparent')
      obtain rfl := Option.some.inj (howner.symm.trans howner')
      exact hkind.resolve_left fun hkind ↦ hfunction rfl hkind hclass

end SymbolGraph.Python

namespace SymbolGraph

/-- Of every Python file that is accepted exactly what stands in its program is recorded. -/
theorem SourceFile.isExact_extract {path source : String} {read : Extraction}
    (hlanguage : Language.ofPath? path = some .python) (hread : extract path source = .ok read) :
    ∃ program, Python.parse? source = some program ∧ Python.IsExact program read := by
  rcases extract_cases hread with ⟨-, program, hparse, rfl⟩ | ⟨hother, -⟩
  · exact ⟨program, hparse,
      Python.isExact_extraction path source (Python.areStatements_of_parse? hparse)⟩
  · cases hlanguage.symm.trans hother

/-- A class with a decorator and a base, and with a method that has a default and an annotation. -/
def decoratedClass : String :=
  "@mark()\nclass Box(base()):\n    def save(self, to=path()) -> kind():\n" ++
    "        run(to())\n\nbox = Box()\n"

/-- The decorator and the base are called by the module and the default by the class; the annotation
is passed over. -/
theorem SourceFile.isExact_decoratedClass : ∃ read,
    Language.ofPath? "app.py" = some .python ∧ extract "app.py" decoratedClass = .ok read ∧
      (∃ program, Python.parse? decoratedClass = some program ∧ Python.IsExact program read) ∧
      read.declarations.map (fun declaration ↦ (declaration.kind, declaration.parent)) =
        [(.module, none), (.classType, some 0), (.method, some 1), (.variable, some 0)] ∧
      read.calls = [⟨0, "mark", 1⟩, ⟨0, "base", 2⟩, ⟨1, "path", 3⟩, ⟨2, "run", 4⟩, ⟨2, "to", 4⟩,
        ⟨0, "Box", 6⟩] := by
  have hparts : (extract "app.py" decoratedClass).toOption.map (fun read ↦
      (read.declarations.map (fun declaration ↦ (declaration.kind, declaration.parent)),
        read.calls)) =
      some ([(.module, none), (.classType, some 0), (.method, some 1), (.variable, some 0)],
        [⟨0, "mark", 1⟩, ⟨0, "base", 2⟩, ⟨1, "path", 3⟩, ⟨2, "run", 4⟩, ⟨2, "to", 4⟩,
          ⟨0, "Box", 6⟩]) := by
    decide +kernel
  have hlanguage : Language.ofPath? "app.py" = some .python := by
    decide +kernel
  obtain ⟨read, hread, hseen⟩ := exists_extract_of_map hparts
  obtain ⟨hdeclarations, hcalls⟩ := Prod.mk.inj hseen
  exact ⟨read, hlanguage, hread, isExact_extract hlanguage hread, hdeclarations, hcalls⟩

end SymbolGraph
