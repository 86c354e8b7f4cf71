import SymbolGraph.Proofs.Extraction.Nesting
import SymbolGraph.Python.Tree.Extraction

/-!
# Python declarations nest

Whatever a Python tree declares fits into the symbol around it (`extends_extract`,
`extends_extractAll`): a function whose nearest definition around it is a class is a method, so no
function is directly in a class, and variables are declared outside all definitions alone. The
invariant is that the symbol around a tree is declared, and that its kind is what the scope says
(`Scope.Holds`).
-/

set_option autoImplicit false
set_option relaxedAutoImplicit false

namespace SymbolGraph.Python

open Extraction (Extends)

/-- What fits in every language, but no function is directly in a class, and names have one part. -/
def FitsIn (name : String) (inner outer : SymbolKind) : Prop :=
  inner.FitsIn outer ∧ (inner = .function → outer ≠ .classType) ∧ '.' ∉ name.toList

/-- The symbol around the place is declared, and it is what the scope says. -/
def Scope.Holds (scope : Scope) (extraction : Extraction) : Prop :=
  ∃ owner ∈ extraction.declarations, owner.tag = scope.owner ∧ owner.kind ≠ .variable ∧
    (scope.inClass = true ↔ owner.kind = .classType) ∧
    (scope.atModule = true → owner.kind = .module)

namespace Scope.Holds

variable {scope : Scope} {extraction : Extraction}

theorem top (name source : String) : Scope.top.Holds (.ofModule name source) :=
  ⟨_, List.mem_singleton_self _, rfl, by simp, by simp [Scope.top], fun _ ↦ rfl⟩

/-- What is around a place stays around it. -/
theorem of_extends {later : Extraction} (hscope : scope.Holds extraction)
    (hextends : Extends FitsIn extraction later) : scope.Holds later := by
  obtain ⟨owner, howner, hscope⟩ := hscope
  exact ⟨owner, hextends.mem howner, hscope⟩

/-- A call is made from the symbol around it. -/
theorem extends_addCall (hscope : scope.Holds extraction) (callee : String) (line : Int) :
    Extends FitsIn extraction (extraction.addCall scope.owner callee line) := by
  obtain ⟨owner, howner, htag, hkind, -⟩ := hscope
  rw [← htag]
  exact .addCall .refl howner hkind callee line

/-- A function fits where it is defined, as a method in a class. -/
theorem extends_function (hscope : scope.Holds extraction) (name : Identifier)
    (signature : Option String) (extent : Extent) :
    Extends FitsIn extraction
      (extraction.declare scope.owner scope.functionKind name.toLabel signature extent) := by
  obtain ⟨owner, howner, htag, hkind, hclass, -⟩ := hscope
  rw [← htag]
  refine .declare .refl howner ?_ signature extent
  unfold functionKind
  split
  · rename_i hinClass
    rw [hclass.mp hinClass]
    exact ⟨.method, by simp, name.undotted⟩
  · rename_i hinClass
    exact ⟨.function hkind, fun _ howner ↦ hinClass (hclass.mpr howner), name.undotted⟩

theorem extends_class (hscope : scope.Holds extraction) (name : Identifier) (extent : Extent) :
    Extends FitsIn extraction
      (extraction.declare scope.owner .classType name.toLabel none extent) := by
  obtain ⟨owner, howner, htag, hkind, -⟩ := hscope
  rw [← htag]
  exact .declare .refl howner ⟨.classType hkind, by simp, name.undotted⟩ none extent

/-- An assignment declares a variable only where the module is around it. -/
theorem extends_variable (hscope : scope.Holds extraction) (hmodule : scope.atModule = true)
    (name : Identifier) (extent : Extent) :
    Extends FitsIn extraction
      (extraction.declare scope.owner .variable name.toLabel none extent) := by
  obtain ⟨owner, howner, htag, -, -, htop⟩ := hscope
  rw [← htag]
  refine .declare .refl howner ⟨?_, by simp, name.undotted⟩ none extent
  rw [htop hmodule]
  exact .variable

/-- The body of a new function is inside it. -/
theorem ofFunction (extraction : Extraction) (parent : Nat) (kind : SymbolKind)
    (hkind : kind = .function ∨ kind = .method) (name : Label) (signature : Option String)
    (extent : Extent) : (Scope.ofFunction extraction.nextTag).Holds
      (extraction.declare parent kind name signature extent) := by
  refine ⟨_, List.mem_append_right _ (List.mem_singleton_self _), rfl, ?_⟩
  rcases hkind with rfl | rfl
  · simp [Scope.ofFunction]
  · simp [Scope.ofFunction]

/-- The body of a new class is inside it. -/
theorem ofClass (extraction : Extraction) (parent : Nat) (name : Label) (extent : Extent) :
    (Scope.ofClass extraction.nextTag).Holds
      (extraction.declare parent .classType name none extent) :=
  ⟨_, List.mem_append_right _ (List.mem_singleton_self _), rfl, by simp, by simp [Scope.ofClass],
    by simp [Scope.ofClass]⟩

end Scope.Holds

theorem Scope.functionKind_cases (scope : Scope) :
    scope.functionKind = .function ∨ scope.functionKind = .method := by
  unfold functionKind
  split
  · exact Or.inr rfl
  · exact Or.inl rfl

/-- Imports extend an extraction wherever they stand. -/
theorem extends_importModules (line : Int) (modules : List ImportedModule)
    (extraction : Extraction) : Extends FitsIn extraction
      (modules.foldl (ImportedModule.extract line) extraction) := by
  induction modules generalizing extraction with
  | nil => exact .refl
  | cons module rest ih => exact .trans (.addImports .refl _ _ _) (ih _)

mutual

/-- What a tree declares fits where it is declared. -/
theorem extends_extract (package : List String) : ∀ (tree : Tree) (scope : Scope)
    (extraction : Extraction), scope.Holds extraction →
      Extends FitsIn extraction (tree.extract package scope extraction)
  | .call callee line parts, scope, extraction, hscope => by
    have hcall := hscope.extends_addCall callee line
    exact hcall.trans (extends_extractAll package parts scope _ (hscope.of_extends hcall))
  | .function name signature extent typeParameters parameters returns body, scope, extraction,
      hscope => by
    have houtside := extends_extractAll package parameters scope extraction hscope
    have hdeclare := (hscope.of_extends houtside).extends_function name (some signature) extent
    have hbody := extends_extractAll package body _ _ (.ofFunction
      (extractAll package scope extraction parameters) scope.owner _ scope.functionKind_cases
      name.toLabel (some signature) extent)
    exact (houtside.trans hdeclare).trans hbody
  | .classDefinition name extent typeParameters bases body, scope, extraction, hscope => by
    have houtside := extends_extractAll package bases scope extraction hscope
    have hdeclare := (hscope.of_extends houtside).extends_class name extent
    have hbody := extends_extractAll package body _ _ (.ofClass
      (extractAll package scope extraction bases) scope.owner name.toLabel extent)
    exact (houtside.trans hdeclare).trans hbody
  | .assignment name extent parts, scope, extraction, hscope => by
    rw [Tree.extract]
    split
    · rename_i hmodule
      have hdeclare := hscope.extends_variable hmodule name extent
      exact hdeclare.trans (extends_extractAll package parts scope _ (hscope.of_extends hdeclare))
    · exact extends_extractAll package parts scope extraction hscope
  | .importModules modules line, _, extraction, _ => extends_importModules line modules extraction
  | .importNames _ _ _, _, _, _ => .addImports .refl _ _ _

/-- What trees declare fits where it is declared. -/
theorem extends_extractAll (package : List String) : ∀ (trees : List Tree) (scope : Scope)
    (extraction : Extraction), scope.Holds extraction →
      Extends FitsIn extraction (extractAll package scope extraction trees)
  | [], _, _, _ => .refl
  | tree :: rest, scope, extraction, hscope => by
    have hfirst := extends_extract package tree scope extraction hscope
    exact hfirst.trans (extends_extractAll package rest scope _ (hscope.of_extends hfirst))

end

/-- What a program declares is added to the module that the path of the file names. -/
theorem extends_extraction (path source : String) (program : List Tree) :
    Extends FitsIn (.ofModule (ModuleName.leaf (ModuleName.ofPath path)) source)
      (extraction path source program) :=
  extends_extractAll _ program .top _ (Scope.Holds.top _ source)

/-- What a program declares nests, in a module that is named by the path of the file. -/
theorem nested_extraction (path source : String) (program : List Tree) :
    Extraction.Nested FitsIn (ModuleName.leaf (ModuleName.ofPath path))
      (extraction path source program).declarations :=
  (Extraction.nested_ofModule _ source).of_extends (extends_extraction path source program)

end SymbolGraph.Python
