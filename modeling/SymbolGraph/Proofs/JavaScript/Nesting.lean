import SymbolGraph.JavaScript.Tree.Extraction
import SymbolGraph.Proofs.Extraction.Nesting

/-!
# JavaScript declarations nest

Whatever a JavaScript tree declares fits into the symbol around it (`extends_extract`,
`extends_extractAll`): methods are declared by the elements of a class, and variables outside all
functions and classes alone, with or without a name. The invariant is that the symbol around a tree
is declared, and that it is the module where the scope says so (`Scope.Holds`).

The walk meets functions with a name in four places: declarations of functions, declarators, methods
and fields. It does the same in all of them (`Tree.extract_of_named?`,
`ClassElement.extract_of_named?`), and a declarator or an element of a class that names no function
is only looked at for its parts.
-/

set_option autoImplicit false
set_option relaxedAutoImplicit false

namespace SymbolGraph.JavaScript

open Extraction (Extends)

/-- What fits in every language, under any name. -/
def FitsIn (_name : String) (inner outer : SymbolKind) : Prop :=
  inner.FitsIn outer

/-! ### What may be declared where -/

/-- The symbol with the tag is declared, and symbols of the kind fit into it. -/
def Accepts (kind : SymbolKind) (tag : Nat) (extraction : Extraction) : Prop :=
  ∃ owner ∈ extraction.declarations, owner.tag = tag ∧ kind.FitsIn owner.kind

/-- The symbol around the place is declared, and it is the module where the scope says so. -/
def Scope.Holds (scope : Scope) (extraction : Extraction) : Prop :=
  ∃ owner ∈ extraction.declarations, owner.tag = scope.owner ∧ owner.kind ≠ .variable ∧
    (scope.atModule = true → owner.kind = .module)

namespace Accepts

variable {kind : SymbolKind} {tag : Nat} {extraction : Extraction}

theorem of_extends {later : Extraction} (haccepts : Accepts kind tag extraction)
    (hextends : Extends FitsIn extraction later) : Accepts kind tag later := by
  obtain ⟨owner, howner, haccepts⟩ := haccepts
  exact ⟨owner, hextends.mem howner, haccepts⟩

theorem extends_declare (haccepts : Accepts kind tag extraction) (name : Label)
    (signature : Option String) (extent : Extent) :
    Extends FitsIn extraction (extraction.declare tag kind name signature extent) := by
  obtain ⟨owner, howner, rfl, hfits⟩ := haccepts
  exact .declare .refl howner hfits signature extent

/-- A new class accepts methods. -/
theorem ofClass (extraction : Extraction) (parent : Nat) (name : Label) (extent : Extent) :
    Accepts .method extraction.nextTag (extraction.declare parent .classType name none extent) :=
  ⟨_, List.mem_append_right _ (List.mem_singleton_self _), rfl, .method⟩

/-- What stands in a class is inside it. -/
theorem holds_inside (hclass : Accepts .method tag extraction) :
    (Scope.inside tag).Holds extraction := by
  obtain ⟨owner, howner, htag, hfits⟩ := hclass
  exact ⟨owner, howner, htag, by simp [hfits.eq_classType], by simp [Scope.inside]⟩

end Accepts

namespace Scope.Holds

variable {scope : Scope} {extraction : Extraction}

theorem top (name source : String) : Scope.top.Holds (.ofModule name source) :=
  ⟨_, List.mem_singleton_self _, rfl, by simp, fun _ ↦ rfl⟩

/-- What is around a place stays around it. -/
theorem of_extends {later : Extraction} (hscope : scope.Holds extraction)
    (hextends : Extends FitsIn extraction later) : scope.Holds later := by
  obtain ⟨owner, howner, hscope⟩ := hscope
  exact ⟨owner, hextends.mem howner, hscope⟩

/-- Something without a name has the same symbol around it. -/
theorem nameless (hscope : scope.Holds extraction) : scope.nameless.Holds extraction := by
  obtain ⟨owner, howner, htag, hkind, -⟩ := hscope
  exact ⟨owner, howner, htag, hkind, by simp [Scope.nameless]⟩

/-- A call is made from the symbol around it. -/
theorem extends_addCall (hscope : scope.Holds extraction) (callee : String) (line : Int) :
    Extends FitsIn extraction (extraction.addCall scope.owner callee line) := by
  obtain ⟨owner, howner, htag, hkind, -⟩ := hscope
  rw [← htag]
  exact .addCall .refl howner hkind callee line

theorem accepts_function (hscope : scope.Holds extraction) :
    Accepts .function scope.owner extraction := by
  obtain ⟨owner, howner, htag, hkind, -⟩ := hscope
  exact ⟨owner, howner, htag, .function hkind⟩

theorem accepts_class (hscope : scope.Holds extraction) :
    Accepts .classType scope.owner extraction := by
  obtain ⟨owner, howner, htag, hkind, -⟩ := hscope
  exact ⟨owner, howner, htag, .classType hkind⟩

/-- A variable is declared only where the module is around it. -/
theorem accepts_variable (hscope : scope.Holds extraction) (hmodule : scope.atModule = true) :
    Accepts .variable scope.owner extraction := by
  obtain ⟨owner, howner, htag, -, htop⟩ := hscope
  refine ⟨owner, howner, htag, ?_⟩
  rw [htop hmodule]
  exact .variable

theorem extends_declareVariable (hscope : scope.Holds extraction) (target : Target)
    (extent : Extent) :
    Extends FitsIn extraction (declareVariable scope target extent extraction) := by
  unfold declareVariable
  split
  · rename_i hmodule
    exact (hscope.accepts_variable hmodule).extends_declare _ none extent
  · exact .refl

/-- The body of a new function is inside it. -/
theorem inside (extraction : Extraction) (parent : Nat) {kind : SymbolKind}
    (hkind : kind = .function ∨ kind = .method) (name : Label) (signature : Option String)
    (extent : Extent) : (Scope.inside extraction.nextTag).Holds
      (extraction.declare parent kind name signature extent) := by
  refine ⟨_, List.mem_append_right _ (List.mem_singleton_self _), rfl, ?_⟩
  rcases hkind with rfl | rfl
  · simp [Scope.inside]
  · simp [Scope.inside]

end Scope.Holds

/-! ### Functions with a name -/

/-- A function and the name that is declared for it. -/
structure NamedFunction where
  name : Label
  extent : Extent
  /-- What is not looked at. -/
  aside : List Tree
  function : Function

/-- The function that a tree declares. -/
def Tree.named? : Tree → Option NamedFunction
  | .functionDeclaration name extent function => some ⟨name, extent, [], function⟩
  | .declarator (.identifier name) extent aside (some (.functionValue function)) =>
    some ⟨name, extent, aside, function⟩
  | _ => none

/-- The method that an element of a class declares. -/
def ClassElement.named? : ClassElement → Option NamedFunction
  | .method name extent aside function
  | .field name extent aside (some (.functionValue function)) =>
    (plainName? name).map (⟨·, extent, aside, function⟩)
  | _ => none

section Named

variable {scope : Scope} {extraction : Extraction} {owner : Nat} {named : NamedFunction}

theorem Tree.eq_of_named?_declarator {target : Target} {extent : Extent} {aside : List Tree}
    {value : Option Tree}
    (hnamed : (Tree.declarator target extent aside value).named? = some named) :
    target = .identifier named.name ∧ extent = named.extent ∧ aside = named.aside ∧
      value = some (.functionValue named.function) := by
  unfold Tree.named? at hnamed
  split at hnamed
  · rename_i heq
    cases heq
  · rename_i heq
    obtain rfl := Option.some.inj hnamed
    cases heq
    exact ⟨rfl, rfl, rfl, rfl⟩
  · cases hnamed

theorem ClassElement.eq_of_named?_field {name : String} {extent : Extent} {aside : List Tree}
    {value : Option Tree}
    (hnamed : (ClassElement.field name extent aside value).named? = some named) :
    plainName? name = some named.name ∧ extent = named.extent ∧ aside = named.aside ∧
      value = some (.functionValue named.function) := by
  unfold ClassElement.named? at hnamed
  split at hnamed
  · rename_i heq
    cases heq
  · rename_i heq
    obtain ⟨label, hlabel, rfl⟩ := Option.map_eq_some_iff.mp hnamed
    cases heq
    exact ⟨hlabel, rfl, rfl, rfl⟩
  · cases hnamed

/-- Every tree that declares a function is read the same way. -/
theorem Tree.extract_of_named? {tree : Tree} (hnamed : tree.named? = some named) :
    tree.extract scope extraction =
      named.function.extract scope .function named.name named.extent extraction := by
  cases tree with
  | functionDeclaration name extent function =>
    obtain rfl := Option.some.inj hnamed
    rfl
  | declarator target extent aside value =>
    obtain ⟨rfl, rfl, rfl, rfl⟩ := Tree.eq_of_named?_declarator hnamed
    rfl
  | _ => cases hnamed

/-- A declarator that names no function loads a module, or has a value like any other. -/
theorem Tree.extract_declarator {target : Target} {extent : Extent} {aside : List Tree}
    {value : Option Tree} (hnamed : (Tree.declarator target extent aside value).named? = none) :
    (Tree.declarator target extent aside value).extract scope extraction =
      match scope.atModule, required? target value with
      | true, some required => extraction.addImports required.source required.names required.line
      | _, _ => extractValue scope (declareVariable scope target extent extraction) value := by
  rewrite [Tree.extract]
  · rfl
  · rintro name function rfl rfl
    cases hnamed

theorem Tree.extract_declarator_of_none {target : Target} {extent : Extent} {aside : List Tree}
    {value : Option Tree} (hnamed : (Tree.declarator target extent aside value).named? = none)
    (hrequired : required? target value = none) :
    (Tree.declarator target extent aside value).extract scope extraction =
      extractValue scope (declareVariable scope target extent extraction) value := by
  rw [Tree.extract_declarator hnamed, hrequired]
  split
  · rename_i hsome
    cases hsome
  · rfl

/-- Every element that declares a method is read the same way. -/
theorem ClassElement.extract_of_named? {element : ClassElement}
    (hnamed : element.named? = some named) : element.extract owner extraction =
      named.function.extract (.inside owner) .method named.name named.extent extraction := by
  cases element with
  | method name extent aside function =>
    obtain ⟨label, hlabel, rfl⟩ := Option.map_eq_some_iff.mp hnamed
    rw [ClassElement.extract, hlabel]
  | field name extent aside value =>
    obtain ⟨hlabel, rfl, rfl, rfl⟩ := ClassElement.eq_of_named?_field hnamed
    rw [ClassElement.extract]
    exact hlabel
  | block => cases hnamed

/-- Any other element is looked at for its parts, but a field for its value alone. -/
theorem ClassElement.extract_method {name : String} {extent : Extent} {aside : List Tree}
    {function : Function}
    (hnamed : (ClassElement.method name extent aside function).named? = none) :
    (ClassElement.method name extent aside function).extract owner extraction =
      function.extractParts (.inside owner) (extractAll (.inside owner) extraction aside) := by
  rw [ClassElement.extract, Option.map_eq_none_iff.mp hnamed]

theorem ClassElement.extract_field {name : String} {extent : Extent} {aside : List Tree}
    {value : Option Tree} (hnamed : (ClassElement.field name extent aside value).named? = none) :
    (ClassElement.field name extent aside value).extract owner extraction =
      extractValue (.inside owner) extraction value := by
  rw [ClassElement.extract]
  rintro label function hlabel rfl
  rw [ClassElement.named?, hlabel] at hnamed
  cases hnamed

theorem Tree.sizeOf_lt_of_named? {tree : Tree} (hnamed : tree.named? = some named) :
    sizeOf named.function < sizeOf tree ∧ ∀ child ∈ named.aside, sizeOf child < sizeOf tree := by
  cases tree with
  | functionDeclaration name extent function =>
    obtain rfl := Option.some.inj hnamed
    refine ⟨?_, List.forall_mem_nil _⟩
    show sizeOf function < _
    rw [Tree.functionDeclaration.sizeOf_spec]
    omega
  | declarator target extent aside value =>
    obtain ⟨rfl, rfl, rfl, rfl⟩ := Tree.eq_of_named?_declarator hnamed
    rw [Tree.declarator.sizeOf_spec, Option.some.sizeOf_spec, Tree.functionValue.sizeOf_spec]
    refine ⟨by omega, fun child hchild ↦ ?_⟩
    have hlt := List.sizeOf_lt_of_mem hchild
    omega
  | _ => cases hnamed

theorem ClassElement.sizeOf_lt_of_named? {element : ClassElement}
    (hnamed : element.named? = some named) :
    sizeOf named.function < sizeOf element ∧
      ∀ child ∈ named.aside, sizeOf child < sizeOf element := by
  cases element with
  | method name extent aside function =>
    obtain ⟨label, -, rfl⟩ := Option.map_eq_some_iff.mp hnamed
    rw [ClassElement.method.sizeOf_spec]
    refine ⟨show sizeOf function < _ by omega, fun child hchild ↦ ?_⟩
    have hlt : sizeOf child < sizeOf aside := List.sizeOf_lt_of_mem hchild
    omega
  | field name extent aside value =>
    obtain ⟨-, rfl, rfl, rfl⟩ := ClassElement.eq_of_named?_field hnamed
    rw [ClassElement.field.sizeOf_spec, Option.some.sizeOf_spec, Tree.functionValue.sizeOf_spec]
    refine ⟨by omega, fun child hchild ↦ ?_⟩
    have hlt := List.sizeOf_lt_of_mem hchild
    omega
  | block => cases hnamed

end Named

/-! ### The walk -/

mutual

/-- What a tree declares fits where it is declared. -/
theorem extends_extract : ∀ (tree : Tree) (scope : Scope) (extraction : Extraction),
    scope.Holds extraction → Extends FitsIn extraction (tree.extract scope extraction)
  | .call callee argument line parts, scope, extraction, hscope => by
    have hcall := hscope.extends_addCall callee line
    exact hcall.trans (extends_extractAll parts scope _ (hscope.of_extends hcall))
  | .functionDeclaration name extent function, scope, extraction, hscope =>
    extends_function function scope (.inl rfl) name extent extraction hscope
      hscope.accepts_function
  | .functionValue function, scope, extraction, hscope =>
    extends_functionParts function scope.nameless extraction hscope.nameless
  | .classDefinition (some name) extent aside heritage elements, scope, extraction, hscope => by
    have houtside := extends_extractAll heritage scope extraction hscope
    have hdeclare :=
      (hscope.of_extends houtside).accepts_class.extends_declare name none extent
    have helements := extends_extractElements elements _ _ (.ofClass
      (extractAll scope extraction heritage) scope.owner name extent)
    exact (houtside.trans hdeclare).trans helements
  | .classDefinition none extent aside heritage elements, scope, extraction, hscope => by
    have houtside := extends_extractAll heritage scope extraction hscope
    exact houtside.trans (extends_extractElementParts elements scope.nameless _
      (hscope.of_extends houtside).nameless)
  | .declarator target extent aside value, scope, extraction, hscope => by
    cases hnamed : (Tree.declarator target extent aside value).named? with
    | some named =>
      rw [Tree.extract_of_named? hnamed]
      exact extends_function named.function scope (.inl rfl) named.name named.extent extraction
        hscope hscope.accepts_function
    | none =>
      rw [Tree.extract_declarator hnamed]
      split
      · exact .addImports .refl _ _ _
      · have hdeclare := hscope.extends_declareVariable target extent
        exact hdeclare.trans (extends_extractValue value scope _ (hscope.of_extends hdeclare))
  | .imports source items line aside, scope, extraction, hscope => by
    rw [Tree.extract]
    split
    · exact .refl
    · exact .addImports .refl _ _ _
  | .group parts, scope, extraction, hscope => extends_extractAll parts scope extraction hscope
termination_by tree => sizeOf tree
decreasing_by
  all_goals first
    | exact (Tree.sizeOf_lt_of_named? ‹_›).1
    | decreasing_tactic

/-- A function that is declared where it fits declares only what fits. -/
theorem extends_function : ∀ (function : Function) (scope : Scope) {kind : SymbolKind},
    kind = .function ∨ kind = .method → ∀ (name : Label) (extent : Extent)
      (extraction : Extraction), scope.Holds extraction → Accepts kind scope.owner extraction →
        Extends FitsIn extraction (function.extract scope kind name extent extraction)
  | ⟨written, parameters, body⟩, scope, _, hkind, name, extent, extraction, hscope, haccepts => by
    have houtside := extends_extractAll parameters scope extraction hscope
    have hdeclare :=
      (haccepts.of_extends houtside).extends_declare name (some written.signature) extent
    have hbody := extends_extractAll body _ _ (.inside (extractAll scope extraction parameters)
      scope.owner hkind name (some written.signature) extent)
    exact (houtside.trans hdeclare).trans hbody
termination_by function => sizeOf function

/-- What the parts of a function declare fits where it is declared. -/
theorem extends_functionParts : ∀ (function : Function) (scope : Scope) (extraction : Extraction),
    scope.Holds extraction → Extends FitsIn extraction (function.extractParts scope extraction)
  | ⟨_, parameters, body⟩, scope, extraction, hscope => by
    have hparameters := extends_extractAll parameters scope extraction hscope
    exact hparameters.trans (extends_extractAll body scope _ (hscope.of_extends hparameters))
termination_by function => sizeOf function

/-- What a value declares fits where it is declared. -/
theorem extends_extractValue : ∀ (value : Option Tree) (scope : Scope) (extraction : Extraction),
    scope.Holds extraction → Extends FitsIn extraction (extractValue scope extraction value)
  | none, _, _, _ => .refl
  | some value, scope, extraction, hscope => extends_extract value scope extraction hscope
termination_by value => sizeOf value

/-- What an element of a class declares fits into the class. -/
theorem extends_extractElement : ∀ (element : ClassElement) (owner : Nat) (extraction : Extraction),
    Accepts .method owner extraction →
      Extends FitsIn extraction (element.extract owner extraction)
  | .method name extent aside function, owner, extraction, hclass => by
    cases hnamed : (ClassElement.method name extent aside function).named? with
    | some named =>
      rw [ClassElement.extract_of_named? hnamed]
      exact extends_function named.function (.inside owner) (.inr rfl) named.name named.extent
        extraction hclass.holds_inside hclass
    | none =>
      rw [ClassElement.extract_method hnamed]
      have haside := extends_extractAll aside (.inside owner) extraction hclass.holds_inside
      exact haside.trans
        (extends_functionParts function _ _ (hclass.of_extends haside).holds_inside)
  | .field name extent aside value, owner, extraction, hclass => by
    cases hnamed : (ClassElement.field name extent aside value).named? with
    | some named =>
      rw [ClassElement.extract_of_named? hnamed]
      exact extends_function named.function (.inside owner) (.inr rfl) named.name named.extent
        extraction hclass.holds_inside hclass
    | none =>
      rw [ClassElement.extract_field hnamed]
      exact extends_extractValue value (.inside owner) extraction hclass.holds_inside
  | .block parts, owner, extraction, hclass =>
    extends_extractAll parts (.inside owner) extraction hclass.holds_inside
termination_by element => sizeOf element
decreasing_by
  all_goals first
    | exact (ClassElement.sizeOf_lt_of_named? ‹_›).1
    | decreasing_tactic

/-- What the parts of an element declare fits where it is declared. -/
theorem extends_elementParts : ∀ (element : ClassElement) (scope : Scope)
    (extraction : Extraction), scope.Holds extraction →
      Extends FitsIn extraction (element.extractParts scope extraction)
  | .method name extent aside function, scope, extraction, hscope => by
    have haside := extends_extractAll aside scope extraction hscope
    exact haside.trans (extends_functionParts function scope _ (hscope.of_extends haside))
  | .field name extent aside value, scope, extraction, hscope => by
    have haside := extends_extractAll aside scope extraction hscope
    exact haside.trans (extends_extractValue value scope _ (hscope.of_extends haside))
  | .block parts, scope, extraction, hscope => extends_extractAll parts scope extraction hscope
termination_by element => sizeOf element

/-- What trees declare fits where it is declared. -/
theorem extends_extractAll : ∀ (trees : List Tree) (scope : Scope) (extraction : Extraction),
    scope.Holds extraction → Extends FitsIn extraction (extractAll scope extraction trees)
  | [], _, _, _ => .refl
  | tree :: rest, scope, extraction, hscope => by
    have hfirst := extends_extract tree scope extraction hscope
    exact hfirst.trans (extends_extractAll rest scope _ (hscope.of_extends hfirst))
termination_by trees => sizeOf trees

/-- What the elements of a class declare fits into the class. -/
theorem extends_extractElements : ∀ (elements : List ClassElement) (owner : Nat)
    (extraction : Extraction), Accepts .method owner extraction →
      Extends FitsIn extraction (extractElements owner extraction elements)
  | [], _, _, _ => .refl
  | element :: rest, owner, extraction, hclass => by
    have hfirst := extends_extractElement element owner extraction hclass
    exact hfirst.trans (extends_extractElements rest owner _ (hclass.of_extends hfirst))
termination_by elements => sizeOf elements

/-- What the elements of a class without a name declare fits where it is declared. -/
theorem extends_extractElementParts : ∀ (elements : List ClassElement) (scope : Scope)
    (extraction : Extraction), scope.Holds extraction →
      Extends FitsIn extraction (extractElementParts scope extraction elements)
  | [], _, _, _ => .refl
  | element :: rest, scope, extraction, hscope => by
    have hfirst := extends_elementParts element scope extraction hscope
    exact hfirst.trans (extends_extractElementParts rest scope _ (hscope.of_extends hfirst))
termination_by elements => sizeOf elements

end

/-- What a program declares is added to the module that the path of the file names. -/
theorem extends_extraction (path source : String) (program : List Tree) :
    Extends FitsIn (.ofModule (Specifier.stem path) source) (extraction path source program) :=
  extends_extractAll program .top _ (Scope.Holds.top _ source)

/-- What a program declares nests, in a module that is named by the path of the file. -/
theorem nested_extraction (path source : String) (program : List Tree) :
    Extraction.Nested FitsIn (Specifier.stem path)
      (extraction path source program).declarations :=
  (Extraction.nested_ofModule _ source).of_extends (extends_extraction path source program)

end SymbolGraph.JavaScript
