import SymbolGraph.Proofs.Ingest.Nesting
import SymbolGraph.Proofs.Text.Split

/-!
# Extractions are well formed

What is read from a file can be relied on in both languages (`Extraction.IsWellFormed`): tags are
places in the list, the module comes first and is around everything else, each symbol follows the
one around it and is of a kind that may be there, calls are made by declared symbols that are no
variables and name their callee by names joined with dots, and no name is empty. This holds for
every syntax tree (`Python.isWellFormed_extraction`, `JavaScript.isWellFormed_extraction`) and so
for every file that is accepted (`SourceFile.isWellFormed_extract`).

The places and kinds of symbols are those of nested declarations. What is left are the callers of
calls and the names, which are kept by everything that extends an extraction
(`Extraction.Accounted`).
-/

set_option autoImplicit false
set_option relaxedAutoImplicit false

namespace SymbolGraph

/-- The text is one name or several names with dots between them, each of them made of letters,
digits, `_` and `$`. -/
def IsDottedCallee (callee : String) : Prop :=
  ∃ parts : List String, parts ≠ [] ∧ Text.join "." parts = callee ∧ ∀ part ∈ parts,
    part ≠ "" ∧ ∀ character ∈ part.toList,
      Text.isAlphanumeric character = true ∨ character = '_' ∨ character = '$'

/-- A simple callee is made of the parts between its dots. -/
theorem isDottedCallee_of_isSimpleCallee {callee : String}
    (hsimple : isSimpleCallee callee = true) : IsDottedCallee callee := by
  refine ⟨Text.split '.' callee, Text.split_ne_nil '.' callee, Text.join_split '.' callee,
    fun part hpart ↦ ?_⟩
  have hproper := List.all_eq_true.mp hsimple part hpart
  rw [Bool.and_eq_true, decide_eq_true_iff, List.all_eq_true] at hproper
  refine ⟨hproper.1, fun character hcharacter ↦ ?_⟩
  have hallowed := hproper.2 character hcharacter
  simpa only [isCalleeCharacter, Bool.or_eq_true, decide_eq_true_iff, or_assoc] using hallowed

namespace Extraction

/-- What is read from a file of a language can be relied on. -/
structure IsWellFormed (language : Language) (extraction : Extraction) : Prop where
  /-- The tag of a declaration is its place. -/
  tags : ∀ (tag : Nat) (declaration : Declaration),
    extraction.declarations[tag]? = some declaration → declaration.tag = tag
  /-- The first declaration, and no other one, is a module, and it alone is in no other. -/
  root : ∃ root rest, extraction.declarations = root :: rest ∧ root.kind = .module ∧
    root.parent = none ∧ ∀ declaration ∈ rest,
      declaration.kind ≠ .module ∧ declaration.parent ≠ none
  /-- What a declaration is in comes before it and is no variable, a class for a method and the
  module for a variable; in Python functions that are in a class are methods. -/
  parents : ∀ declaration ∈ extraction.declarations, ∀ tag, declaration.parent = some tag →
    ∃ owner, extraction.declarations[tag]? = some owner ∧ tag < declaration.tag ∧
      owner.kind ≠ .variable ∧ (declaration.kind = .method → owner.kind = .classType) ∧
      (declaration.kind = .variable → owner.kind = .module) ∧
      (language = .python → declaration.kind = .function → owner.kind ≠ .classType)
  /-- The symbol that makes a call is declared and no variable. -/
  callers : ∀ call ∈ extraction.calls, ∃ caller,
    extraction.declarations[call.caller]? = some caller ∧ caller.kind ≠ .variable
  callees : ∀ call ∈ extraction.calls, IsDottedCallee call.callee
  names : ∀ declaration ∈ extraction.declarations, declaration.kind ≠ .module →
    declaration.name ≠ ""
  importedNames : ∀ mention ∈ extraction.imports, mention.name ≠ ""

/-! ### Callers and names -/

/-- Calls are made by declared symbols that are no variables, and only modules may lack a name. -/
structure Accounted (extraction : Extraction) : Prop where
  callers : ∀ call ∈ extraction.calls, ∃ caller ∈ extraction.declarations,
    caller.tag = call.caller ∧ caller.kind ≠ .variable
  names : ∀ declaration ∈ extraction.declarations, declaration.kind ≠ .module →
    declaration.name ≠ ""
  importedNames : ∀ mention ∈ extraction.imports, mention.name ≠ ""

theorem accounted_ofModule (name source : String) : Accounted (ofModule name source) where
  callers := by simp [ofModule]
  names := by simp [ofModule]
  importedNames := by simp [ofModule]

namespace Accounted

variable {extraction : Extraction} (haccounted : extraction.Accounted)
include haccounted

theorem declare (parent : Nat) (kind : SymbolKind) (name : Label) (signature : Option String)
    (extent : Extent) : (extraction.declare parent kind name signature extent).Accounted where
  callers := by
    intro call hcall
    obtain ⟨caller, hcaller, hmakes⟩ := haccounted.callers call hcall
    exact ⟨caller, List.mem_append_left _ hcaller, hmakes⟩
  names := by
    refine List.forall_mem_append.mpr ⟨haccounted.names, ?_⟩
    rw [List.forall_mem_singleton]
    exact fun _ ↦ name.text_ne
  importedNames := haccounted.importedNames

theorem addCall {caller : Declaration} (hcaller : caller ∈ extraction.declarations)
    (hkind : caller.kind ≠ .variable) (callee : String) (line : Int) :
    (extraction.addCall caller.tag callee line).Accounted := by
  unfold Extraction.addCall
  split
  · refine ⟨List.forall_mem_append.mpr ⟨haccounted.callers, ?_⟩, haccounted.names,
      haccounted.importedNames⟩
    rw [List.forall_mem_singleton]
    exact ⟨caller, hcaller, rfl, hkind⟩
  · exact haccounted

theorem addImports (source : String) (names : List ImportedName) (line : Int) :
    (extraction.addImports source names line).Accounted where
  callers := haccounted.callers
  names := haccounted.names
  importedNames := by
    refine List.forall_mem_append.mpr ⟨haccounted.importedNames, ?_⟩
    rw [List.forall_mem_map]
    exact fun imported _ ↦ imported.name.text_ne

omit haccounted in
/-- Extending keeps calls and names accounted for. -/
theorem of_extends {fits : String → SymbolKind → SymbolKind → Prop} {start last : Extraction}
    (hstart : start.Accounted) (hextends : Extends fits start last) : last.Accounted := by
  induction hextends with
  | refl => exact hstart
  | declare _ _ _ signature extent ih => exact ih.declare _ _ _ signature extent
  | addCall _ hcaller hkind callee line ih => exact ih.addCall hcaller hkind callee line
  | addImports _ source names line ih => exact ih.addImports source names line

end Accounted

/-! ### Places -/

namespace Nested

variable {fits : String → SymbolKind → SymbolKind → Prop} {moduleName : String}
  {declarations : List Declaration}

/-- The declaration with a tag is at that place. -/
theorem getElem?_tag (hnested : Nested fits moduleName declarations) {declaration : Declaration}
    (hdeclaration : declaration ∈ declarations) :
    declarations[declaration.tag]? = some declaration := by
  have hlt := hnested.tag_lt hdeclaration
  have htag := congrArg (·[declaration.tag]?) hnested.tags
  simp only [List.getElem?_map, List.getElem?_range hlt, Option.map_eq_some_iff] at htag
  obtain ⟨other, hother, hsame⟩ := htag
  rw [hother, hnested.eq_of_tag_eq (List.mem_of_getElem? hother) hdeclaration hsame]

/-- A declaration is the module exactly when nothing is around it. -/
theorem isModule_iff_parent (hnested : Nested fits moduleName declarations)
    (hfits : ∀ name inner outer, fits name inner outer → inner.FitsIn outer)
    {declaration : Declaration} (hdeclaration : declaration ∈ declarations) :
    declaration.kind = .module ↔ declaration.parent = none := by
  rcases hnested.owner declaration hdeclaration with ⟨hroot, hkind, -⟩ | ⟨owner, -, hparent, -, hin⟩
  · exact iff_of_true hkind hroot
  · refine iff_of_false (hfits _ _ _ hin).ne_module ?_
    rw [hparent]
    exact Option.some_ne_none _

end Nested

/-- What is added to a file is inside something. -/
theorem Extends.exists_added {fits : String → SymbolKind → SymbolKind → Prop}
    {start last : Extraction} (hextends : Extends fits start last) :
    ∃ added, last.declarations = start.declarations ++ added ∧
      ∀ declaration ∈ added, declaration.parent ≠ none := by
  induction hextends with
  | refl => exact ⟨[], (List.append_nil _).symm, fun _ hadded ↦ nomatch hadded⟩
  | declare _ _ _ signature extent ih =>
    obtain ⟨added, hlast, hadded⟩ := ih
    refine ⟨_, (congrArg (· ++ _) hlast).trans (List.append_assoc _ _ _),
      List.forall_mem_append.mpr ⟨hadded, ?_⟩⟩
    rw [List.forall_mem_singleton]
    exact Option.some_ne_none _
  | addCall _ _ _ callee line ih =>
    rw [declarations_addCall]
    exact ih
  | addImports _ _ _ _ ih => exact ih

/-- What extends a module by what fits in a language is well formed. -/
theorem isWellFormed_of_extends {language : Language}
    {fits : String → SymbolKind → SymbolKind → Prop} {name source : String}
    {extraction : Extraction} (hextends : Extends fits (.ofModule name source) extraction)
    (hfits : ∀ name inner outer, fits name inner outer → inner.FitsIn outer)
    (hpython : language = .python → ∀ name outer, fits name .function outer →
      outer ≠ .classType) :
    extraction.IsWellFormed language := by
  have hnested : Nested fits name extraction.declarations :=
    (nested_ofModule name source).of_extends hextends
  have haccounted := (accounted_ofModule name source).of_extends hextends
  have hregular := (regular_ofModule name source).of_extends hextends
  obtain ⟨added, hdeclarations, hadded⟩ := hextends.exists_added
  refine ⟨fun tag declaration hplace ↦ ?_, ⟨_, added, hdeclarations, rfl, rfl, ?_⟩, ?_, ?_,
    fun call hcall ↦ isDottedCallee_of_isSimpleCallee (hregular.isSimpleCallee call hcall),
    haccounted.names, haccounted.importedNames⟩
  · have htag := congrArg (·[tag]?) hnested.tags
    obtain ⟨hlt, -⟩ := List.getElem?_eq_some_iff.mp hplace
    simpa only [List.getElem?_map, hplace, List.getElem?_range hlt, Option.map_some,
      Option.some.injEq] using htag
  · intro declaration hmem
    have hparent := hadded declaration hmem
    have hdeclaration : declaration ∈ extraction.declarations := by
      rw [hdeclarations]
      exact List.mem_append_right _ hmem
    exact ⟨mt (hnested.isModule_iff_parent hfits hdeclaration).mp hparent, hparent⟩
  · intro declaration hdeclaration tag hparent
    rcases hnested.owner declaration hdeclaration with
      ⟨hroot, -⟩ | ⟨owner, howner, hownerTag, hlt, hin⟩
    · cases hroot.symm.trans hparent
    · obtain rfl := Option.some.inj (hownerTag.symm.trans hparent)
      have hkinds := hfits _ _ _ hin
      refine ⟨owner, hnested.getElem?_tag howner, hlt, hkinds.ne_variable, ?_, ?_, ?_⟩
      · intro hmethod
        exact (hmethod ▸ hkinds).eq_classType
      · intro hvariable
        exact (hvariable ▸ hkinds).eq_module
      · intro hlanguage hfunction
        exact hpython hlanguage _ _ (hfunction ▸ hin)
  · intro call hcall
    obtain ⟨caller, hcaller, htag, hkind⟩ := haccounted.callers call hcall
    exact ⟨caller, htag ▸ hnested.getElem?_tag hcaller, hkind⟩

end Extraction

/-! ### Trees and files -/

/-- What any Python tree declares and mentions is well formed. -/
theorem Python.isWellFormed_extraction (path source : String) (program : List Python.Tree) :
    (Python.extraction path source program).IsWellFormed .python :=
  Extraction.isWellFormed_of_extends (extends_extraction path source program)
    (fun _ _ _ hin ↦ hin.1) fun _ _ _ hin ↦ hin.2.1 rfl

/-- What any JavaScript tree declares and mentions is well formed. -/
theorem JavaScript.isWellFormed_extraction (path source : String)
    (program : List JavaScript.Tree) :
    (JavaScript.extraction path source program).IsWellFormed .javaScript :=
  Extraction.isWellFormed_of_extends (extends_extraction path source program)
    (fun _ _ _ hin ↦ hin) fun hlanguage ↦ nomatch hlanguage

/-- Every file that is accepted is well formed in its language. -/
theorem SourceFile.isWellFormed_extract {path source : String} {read : Extraction}
    (hread : extract path source = .ok read) :
    ∃ language, Language.ofPath? path = some language ∧ read.IsWellFormed language := by
  rcases extract_cases hread with ⟨hlanguage, program, -, rfl⟩ | ⟨hlanguage, program, -, rfl⟩
  · exact ⟨.python, hlanguage, Python.isWellFormed_extraction path source program⟩
  · exact ⟨.javaScript, hlanguage, JavaScript.isWellFormed_extraction path source program⟩

/-- A class with a method inside a condition, in which a function is called that is imported under
another name. -/
def importingMethod : String :=
  "from lib import go as run\n\nclass Box:\n    if True:\n        def save(self):\n" ++
    "            run(self.size)\n"

/-- The function is a method of the class, and makes the call. -/
theorem SourceFile.isWellFormed_importingMethod : ∃ read,
    extract "app.py" importingMethod = .ok read ∧
      (∃ language, Language.ofPath? "app.py" = some language ∧ read.IsWellFormed language) ∧
      read.declarations.map (fun declaration ↦ (declaration.kind, declaration.parent)) =
        [(.module, none), (.classType, some 0), (.method, some 1)] ∧
      read.imports.map (·.name) = ["go"] ∧ read.calls = [⟨2, "run", 6⟩] := by
  have hparts : (extract "app.py" importingMethod).toOption.map (fun read ↦
      (read.declarations.map (fun declaration ↦ (declaration.kind, declaration.parent)),
        read.imports.map (·.name), read.calls)) =
      some ([(.module, none), (.classType, some 0), (.method, some 1)], ["go"],
        [⟨2, "run", 6⟩]) := by
    decide +kernel
  obtain ⟨read, hread, hseen⟩ := exists_extract_of_map hparts
  obtain ⟨hdeclarations, hrest⟩ := Prod.mk.inj hseen
  obtain ⟨himports, hcalls⟩ := Prod.mk.inj hrest
  exact ⟨read, hread, isWellFormed_extract hread, hdeclarations, himports, hcalls⟩

end SymbolGraph
