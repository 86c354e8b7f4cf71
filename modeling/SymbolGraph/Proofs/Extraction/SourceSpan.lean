import SymbolGraph.Proofs.Extraction.Span
import SymbolGraph.Proofs.JavaScript.Record
import SymbolGraph.Proofs.Python.Record

/-!
# Spans of the declarations of a file

The spans of what is read from a file nest, in both languages (`SourceFile.spansNest_extract`). Of
the syntax tree it is asked that the extent of a node lies in the nearest one around it, that rows
count line feeds, and that no extent ends with a line feed (`Python.areIn`, `JavaScript.areIn`).
Nothing is asked of the symbols themselves: which one is around another is up to the walk, and the
last line of a module is counted by the lines of its text.
-/

set_option autoImplicit false
set_option relaxedAutoImplicit false

namespace SymbolGraph

/-! ### Python trees -/

namespace Python

mutual

/-- The extents in the tree are parts of the source, each of them in the one around it. -/
def Tree.isIn (source : String) (around : Extent) : Tree → Bool
  | .call _ _ parts => areIn source around parts
  | .function _ _ extent typeParameters parameters returns body =>
    extent.isPart source around && areIn source extent typeParameters &&
      areIn source extent parameters && areIn source extent returns && areIn source extent body
  | .classDefinition _ extent typeParameters bases body =>
    extent.isPart source around && areIn source extent typeParameters &&
      areIn source extent bases && areIn source extent body
  | .assignment _ extent parts => extent.isPart source around && areIn source extent parts
  | .importModules _ _ => true
  | .importNames _ _ _ => true

/-- The extents in the trees are parts of the source, each of them in the one around it. -/
def areIn (source : String) (around : Extent) : List Tree → Bool
  | [] => true
  | tree :: rest => tree.isIn source around && areIn source around rest

end

variable {source : String} {around : Extent}

theorem areIn_iff {trees : List Tree} :
    areIn source around trees = true ↔ ∀ tree ∈ trees, tree.isIn source around = true := by
  induction trees with
  | nil => exact iff_of_true rfl (List.forall_mem_nil _)
  | cons tree rest ih => rw [areIn, Bool.and_eq_true, ih, List.forall_mem_cons]

/-- The extent of a definition or an assignment. -/
def Tree.extent? : Tree → Option Extent
  | .function _ _ extent _ _ _ _ => some extent
  | .classDefinition _ extent _ _ _ => some extent
  | .assignment _ extent _ => some extent
  | _ => none

/-- Python trees hand extents down. -/
theorem handsDown (source : String) : HandsDown Tree.reading source Tree.extent?
    (fun around tree ↦ tree.isIn source around = true) where
  held := by
    intro around outer houter part child hchild
    cases outer with
    | call callee line parts =>
      cases part with
      | piece => exact ⟨_, .refl _, areIn_iff.mp houter child hchild⟩
      | _ => cases hchild
    | function name signature extent typeParameters parameters returns body =>
      simp only [Tree.isIn, Bool.and_eq_true] at houter
      obtain ⟨⟨⟨⟨-, htypes⟩, hparameters⟩, hreturns⟩, hbody⟩ := houter
      cases part with
      | typeParameters => exact ⟨_, .refl _, areIn_iff.mp htypes child hchild⟩
      | parameters => exact ⟨_, .refl _, areIn_iff.mp hparameters child hchild⟩
      | returns => exact ⟨_, .refl _, areIn_iff.mp hreturns child hchild⟩
      | functionBody => exact ⟨_, .refl _, areIn_iff.mp hbody child hchild⟩
      | _ => cases hchild
    | classDefinition name extent typeParameters bases body =>
      simp only [Tree.isIn, Bool.and_eq_true] at houter
      obtain ⟨⟨⟨-, htypes⟩, hbases⟩, hbody⟩ := houter
      cases part with
      | typeParameters => exact ⟨_, .refl _, areIn_iff.mp htypes child hchild⟩
      | bases => exact ⟨_, .refl _, areIn_iff.mp hbases child hchild⟩
      | classBody => exact ⟨_, .refl _, areIn_iff.mp hbody child hchild⟩
      | _ => cases hchild
    | assignment name extent parts =>
      simp only [Tree.isIn, Bool.and_eq_true] at houter
      cases part with
      | piece => exact ⟨_, .refl _, areIn_iff.mp houter.2 child hchild⟩
      | _ => cases hchild
    | _ => cases hchild
  isPart := by
    intro around extent node hnode hextent
    have hpart : extent.isPart source around = true := by
      unfold Tree.extent? at hextent
      split at hextent
      · obtain rfl := Option.some.inj hextent
        simp only [Tree.isIn, Bool.and_eq_true] at hnode
        exact hnode.1.1.1.1
      · obtain rfl := Option.some.inj hextent
        simp only [Tree.isIn, Bool.and_eq_true] at hnode
        exact hnode.1.1.1
      · obtain rfl := Option.some.inj hextent
        simp only [Tree.isIn, Bool.and_eq_true] at hnode
        exact hnode.1
      · cases hextent
    exact of_decide_eq_true hpart
  definition := by
    intro address node definition hdefinition
    cases node with
    | function =>
      obtain rfl := Option.some.inj hdefinition
      rfl
    | classDefinition =>
      obtain rfl := Option.some.inj hdefinition
      rfl
    | assignment =>
      obtain ⟨-, hdefinition⟩ := Option.ite_none_right_eq_some.mp hdefinition
      obtain rfl := Option.some.inj hdefinition
      rfl
    | _ => cases hdefinition

/-- The spans of what a program declares nest, if the extents in its tree do. -/
theorem spansNest_extraction (path : String) {program : List Tree}
    (hprogram : AreStatements program) (hin : areIn source (.ofSource source) program = true) :
    (extraction path source program).SpansNest source := by
  obtain ⟨definitions, mentions, hrecord⟩ := (isExact_extraction path source hprogram).recorded
  exact hrecord.spansNest (handsDown source) (areIn_iff.mp hin)
    (extends_extraction path source program)

end Python

/-! ### JavaScript trees -/

namespace JavaScript

mutual

/-- The extents in the tree are parts of the source, each of them in the one around it. -/
def Tree.isIn (source : String) (around : Extent) : Tree → Bool
  | .call _ _ _ parts => areIn source around parts
  | .functionDeclaration _ extent function =>
    extent.isPart source around && function.isIn source extent
  | .functionValue function => function.isIn source around
  | .classDefinition _ extent aside heritage elements =>
    extent.isPart source around && areIn source extent aside && areIn source extent heritage &&
      elementsAreIn source extent elements
  | .declarator _ extent aside value =>
    extent.isPart source around && areIn source extent aside && valueIsIn source extent value
  | .imports _ _ _ aside => areIn source around aside
  | .group parts => areIn source around parts

/-- The extents in the function are parts of the source, each of them in the one around it. -/
def Function.isIn (source : String) (around : Extent) : Function → Bool
  | ⟨_, parameters, body⟩ => areIn source around parameters && areIn source around body

/-- The extents in the value are parts of the source, each of them in the one around it. -/
def valueIsIn (source : String) (around : Extent) : Option Tree → Bool
  | none => true
  | some value => value.isIn source around

/-- The extents in the element are parts of the source, each of them in the one around it. -/
def ClassElement.isIn (source : String) (around : Extent) : ClassElement → Bool
  | .method _ extent aside function =>
    extent.isPart source around && areIn source extent aside && function.isIn source extent
  | .field _ extent aside value =>
    extent.isPart source around && areIn source extent aside && valueIsIn source extent value
  | .block parts => areIn source around parts

/-- The extents in the trees are parts of the source, each of them in the one around it. -/
def areIn (source : String) (around : Extent) : List Tree → Bool
  | [] => true
  | tree :: rest => tree.isIn source around && areIn source around rest

/-- The extents in the elements are parts of the source, each of them in the one around it. -/
def elementsAreIn (source : String) (around : Extent) : List ClassElement → Bool
  | [] => true
  | element :: rest => element.isIn source around && elementsAreIn source around rest

end

namespace Node

/-- The extents in the node are parts of the source, each of them in the one around it. -/
def isIn (source : String) (around : Extent) : Node → Bool
  | .tree inner => inner.isIn source around
  | .element inner => inner.isIn source around

/-- The extent of a declaration or of a member. -/
def extent? : Node → Option Extent
  | .tree (.functionDeclaration _ extent _) | .tree (.classDefinition _ extent _ _ _)
  | .tree (.declarator _ extent _ _) | .element (.method _ extent _ _)
  | .element (.field _ extent _ _) => some extent
  | _ => none

end Node

section Extents

variable {source : String} {around : Extent}

theorem areIn_iff {trees : List Tree} : areIn source around trees = true ↔
    ∀ node ∈ trees.map .tree, Node.isIn source around node = true := by
  induction trees with
  | nil => exact iff_of_true rfl (List.forall_mem_nil _)
  | cons tree rest ih =>
    rw [areIn, Bool.and_eq_true, ih, List.map_cons, List.forall_mem_cons, Node.isIn]

theorem areIn_append {first second : List Tree} : areIn source around (first ++ second) =
    (areIn source around first && areIn source around second) := by
  induction first with
  | nil => rfl
  | cons tree rest ih => rw [List.cons_append, areIn, areIn, ih, Bool.and_assoc]

theorem elementsAreIn_iff {elements : List ClassElement} :
    elementsAreIn source around elements = true ↔
      ∀ node ∈ elements.map .element, Node.isIn source around node = true := by
  induction elements with
  | nil => exact iff_of_true rfl (List.forall_mem_nil _)
  | cons element rest ih =>
    rw [elementsAreIn, Bool.and_eq_true, ih, List.map_cons, List.forall_mem_cons, Node.isIn]

theorem areIn_function (function : Function) :
    areIn source around (function.parameters ++ function.body) =
      function.isIn source around := by
  obtain ⟨written, parameters, body⟩ := function
  exact areIn_append

theorem areIn_toList (value : Option Tree) :
    areIn source around value.toList = valueIsIn source around value := by
  cases value with
  | none => rfl
  | some value => exact Bool.and_true _

/-- The parts of an element of a class are in its extent, which is within the one of the class. -/
theorem ClassElement.exists_areIn_parts {element : ClassElement}
    (hin : element.isIn source around = true) :
    ∃ inner : Extent, inner.IsWithin around ∧ areIn source inner element.parts = true := by
  cases element with
  | method name extent aside function =>
    simp only [ClassElement.isIn, Bool.and_eq_true] at hin
    refine ⟨extent, (of_decide_eq_true hin.1.1).2, ?_⟩
    rw [ClassElement.parts, areIn_append, areIn_function, hin.1.2, hin.2]
    rfl
  | field name extent aside value =>
    simp only [ClassElement.isIn, Bool.and_eq_true] at hin
    refine ⟨extent, (of_decide_eq_true hin.1.1).2, ?_⟩
    rw [ClassElement.parts, areIn_append, areIn_toList, hin.1.2, hin.2]
    rfl
  | block parts => exact ⟨around, .refl _, hin⟩

/-- What a function with a name holds is in its extent. -/
theorem NamedFunction.areIn_held {named : NamedFunction}
    (haside : areIn source around named.aside = true)
    (hfunction : named.function.isIn source around = true) (part : Part) :
    areIn source around (named.held part) = true := by
  rw [← areIn_function, areIn_append, Bool.and_eq_true] at hfunction
  cases part with
  | aside => exact haside
  | parameters => exact hfunction.1
  | functionBody => exact hfunction.2
  | _ => rfl

/-- The extent of a node that declares a function is that of the function. -/
theorem Node.extent?_of_named? {node : Node} {named : NamedFunction}
    (hnamed : node.named? = some named) : node.extent? = some named.extent := by
  cases node with
  | tree outer =>
    cases outer with
    | functionDeclaration =>
      obtain rfl := Option.some.inj hnamed
      rfl
    | declarator =>
      obtain ⟨rfl, rfl, rfl, rfl⟩ := Tree.eq_of_named?_declarator hnamed
      rfl
    | _ => cases hnamed
  | element outer =>
    cases outer with
    | method =>
      obtain ⟨label, -, rfl⟩ := Option.map_eq_some_iff.mp hnamed
      rfl
    | field =>
      obtain ⟨-, rfl, rfl, rfl⟩ := ClassElement.eq_of_named?_field hnamed
      rfl
    | block => cases hnamed

/-- The function that a node declares is in its own extent. -/
theorem Node.isIn_of_named? {node : Node} {named : NamedFunction}
    (hnamed : node.named? = some named) (hin : node.isIn source around = true) :
    areIn source named.extent named.aside = true ∧
      named.function.isIn source named.extent = true := by
  cases node with
  | tree outer =>
    cases outer with
    | functionDeclaration name extent function =>
      simp only [Node.isIn, Tree.isIn, Bool.and_eq_true] at hin
      obtain rfl := Option.some.inj hnamed
      exact ⟨rfl, hin.2⟩
    | declarator target extent aside value =>
      simp only [Node.isIn, Tree.isIn, Bool.and_eq_true] at hin
      obtain ⟨rfl, rfl, rfl, rfl⟩ := Tree.eq_of_named?_declarator hnamed
      exact ⟨hin.1.2, hin.2⟩
    | _ => cases hnamed
  | element outer =>
    cases outer with
    | method name extent aside function =>
      simp only [Node.isIn, ClassElement.isIn, Bool.and_eq_true] at hin
      obtain ⟨label, -, rfl⟩ := Option.map_eq_some_iff.mp hnamed
      exact ⟨hin.1.2, hin.2⟩
    | field name extent aside value =>
      simp only [Node.isIn, ClassElement.isIn, Bool.and_eq_true] at hin
      obtain ⟨-, rfl, rfl, rfl⟩ := ClassElement.eq_of_named?_field hnamed
      exact ⟨hin.1.2, hin.2⟩
    | block => cases hnamed

/-- A tree that declares no function hands extents down. -/
theorem Tree.exists_isIn_of_held {outer : Tree} {child : Node} {part : Part}
    (hin : outer.isIn source around = true) (hchild : child ∈ outer.held part) :
    ∃ inner : Extent, inner.IsWithin ((Node.extent? (.tree outer)).getD around) ∧
      child.isIn source inner = true := by
  cases outer with
  | call callee argument line parts =>
    cases part with
    | piece => exact ⟨_, .refl _, areIn_iff.mp hin child hchild⟩
    | _ => cases hchild
  | functionDeclaration => cases hchild
  | functionValue function =>
    cases part with
    | nameless =>
      exact ⟨_, .refl _, areIn_iff.mp ((areIn_function function).trans hin) child hchild⟩
    | _ => cases hchild
  | classDefinition name extent aside heritage elements =>
    simp only [Tree.isIn, Bool.and_eq_true] at hin
    obtain ⟨⟨⟨-, haside⟩, hheritage⟩, helements⟩ := hin
    cases part with
    | aside => exact ⟨_, .refl _, areIn_iff.mp haside child hchild⟩
    | bases => exact ⟨_, .refl _, areIn_iff.mp hheritage child hchild⟩
    | classBody =>
      cases name with
      | some name => exact ⟨_, .refl _, elementsAreIn_iff.mp helements child hchild⟩
      | none => cases hchild
    | nameless =>
      cases name with
      | some name => cases hchild
      | none =>
        -- The elements are no nodes here, but their parts are still in their extents.
        obtain ⟨tree, htree, rfl⟩ := List.mem_map.mp hchild
        obtain ⟨element, helement, htree⟩ := List.mem_flatMap.mp htree
        have hin := elementsAreIn_iff.mp helements _ (List.mem_map_of_mem helement)
        obtain ⟨inner, hinner, hparts⟩ := ClassElement.exists_areIn_parts hin
        exact ⟨inner, hinner, areIn_iff.mp hparts _ (List.mem_map_of_mem htree)⟩
    | _ => cases hchild
  | declarator target extent aside value =>
    simp only [Tree.isIn, Bool.and_eq_true] at hin
    obtain ⟨⟨-, haside⟩, hvalue⟩ := hin
    rw [← areIn_toList] at hvalue
    by_cases hpart : part = .aside
    · subst hpart
      exact ⟨_, .refl _, areIn_iff.mp haside child hchild⟩
    · rw [Tree.held_declarator _ _ _ _ hpart] at hchild
      obtain ⟨-, hchild⟩ := List.mem_ite_nil_right.mp hchild
      exact ⟨_, .refl _, areIn_iff.mp hvalue child hchild⟩
  | imports source items line aside =>
    cases part with
    | aside => exact ⟨_, .refl _, areIn_iff.mp hin child hchild⟩
    | _ => cases hchild
  | group parts =>
    cases part with
    | piece => exact ⟨_, .refl _, areIn_iff.mp hin child hchild⟩
    | _ => cases hchild

/-- An element of a class that declares no method hands extents down. -/
theorem ClassElement.isIn_of_held {outer : ClassElement} {child : Node} {part : Part}
    (hin : outer.isIn source around = true) (hchild : child ∈ (outer.held part).map .tree) :
    child.isIn source ((Node.extent? (.element outer)).getD around) = true := by
  cases outer with
  | method name extent aside function =>
    simp only [ClassElement.isIn, Bool.and_eq_true] at hin
    cases part with
    | piece =>
      refine areIn_iff.mp ?_ child hchild
      rw [ClassElement.held, ClassElement.parts, areIn_append, areIn_function, Bool.and_eq_true]
      exact ⟨hin.1.2, hin.2⟩
    | _ => cases hchild
  | field name extent aside value =>
    simp only [ClassElement.isIn, Bool.and_eq_true] at hin
    cases part with
    | aside => exact areIn_iff.mp hin.1.2 child hchild
    | piece => exact areIn_iff.mp ((areIn_toList value).trans hin.2) child hchild
    | _ => cases hchild
  | block parts =>
    cases part with
    | piece => exact areIn_iff.mp hin child hchild
    | _ => cases hchild

end Extents

/-- JavaScript trees hand extents down. -/
theorem handsDown (skipped : Address → Bool) (source : String) :
    HandsDown (Node.reading skipped) source Node.extent?
      (fun around node ↦ node.isIn source around = true) where
  held := by
    intro around outer houter part child hchild
    cases hnamed : outer.named? with
    | some named =>
      obtain ⟨haside, hfunction⟩ := Node.isIn_of_named? hnamed houter
      simp only [SyntaxNode.held, hnamed] at hchild
      rw [Node.extent?_of_named? hnamed]
      exact ⟨_, .refl _, areIn_iff.mp (NamedFunction.areIn_held haside hfunction part) child hchild⟩
    | none =>
      simp only [SyntaxNode.held, hnamed] at hchild
      cases outer with
      | tree outer => exact Tree.exists_isIn_of_held houter hchild
      | element outer => exact ⟨_, .refl _, ClassElement.isIn_of_held houter hchild⟩
  isPart := by
    intro around extent node hnode hextent
    have hpart : extent.isPart source around = true := by
      unfold Node.extent? at hextent
      split at hextent
      · obtain rfl := Option.some.inj hextent
        simp only [Node.isIn, Tree.isIn, Bool.and_eq_true] at hnode
        exact hnode.1
      · obtain rfl := Option.some.inj hextent
        simp only [Node.isIn, Tree.isIn, Bool.and_eq_true] at hnode
        exact hnode.1.1.1
      · obtain rfl := Option.some.inj hextent
        simp only [Node.isIn, Tree.isIn, Bool.and_eq_true] at hnode
        exact hnode.1.1
      · obtain rfl := Option.some.inj hextent
        simp only [Node.isIn, ClassElement.isIn, Bool.and_eq_true] at hnode
        exact hnode.1.1
      · obtain rfl := Option.some.inj hextent
        simp only [Node.isIn, ClassElement.isIn, Bool.and_eq_true] at hnode
        exact hnode.1.1
      · cases hextent
    exact of_decide_eq_true hpart
  definition := by
    intro address node definition hdefinition
    replace hdefinition := (Option.ite_none_left_eq_some.mp hdefinition).2
    cases hnamed : node.named? with
    | some named =>
      rw [hnamed] at hdefinition
      obtain rfl := Option.some.inj hdefinition
      exact Node.extent?_of_named? hnamed
    | none =>
      rw [hnamed] at hdefinition
      split at hdefinition
      · rename_i hsome
        cases hsome
      · obtain rfl := Option.some.inj hdefinition
        rfl
      · obtain ⟨-, hdefinition⟩ := Option.ite_none_right_eq_some.mp hdefinition
        obtain rfl := Option.some.inj hdefinition
        rfl
      · cases hdefinition

/-- The spans of what a program declares nest, if the extents in its tree do. -/
theorem spansNest_extraction (path : String) {source : String} {program : List Tree}
    (hin : areIn source (.ofSource source) program = true) :
    (extraction path source program).SpansNest source := by
  obtain ⟨definitions, mentions, hrecord⟩ := recordsCalls_extraction path source program
  exact hrecord.spansNest (handsDown isPassedOver source) (areIn_iff.mp hin)
    (extends_extraction path source program)

end JavaScript

/-! ### Files -/

namespace SourceFile

/-- In the syntax tree that a file is read into, if it is accepted, the extent of a node lies in the
nearest one around it, rows count the line feeds before them, and no extent ends with a line
feed. -/
def IsLaidOut (path source : String) : Prop :=
  match Language.ofPath? path with
  | none => True
  | some .python => ∀ program ∈ Python.parse? source,
      Python.areIn source (.ofSource source) program = true
  | some .javaScript => ∀ program ∈ JavaScript.parse? source,
      JavaScript.areIn source (.ofSource source) program = true

/-- The spans of all that is read from a file nest: each of them is a part of the source and lies in
the span of the symbol around it, by lines and by bytes, and that of the module is the whole
source. -/
theorem spansNest_extract {path source : String} {read : Extraction}
    (hread : extract path source = .ok read) (hlaidOut : IsLaidOut path source) :
    read.SpansNest source := by
  unfold IsLaidOut at hlaidOut
  rcases extract_cases hread with
    ⟨hlanguage, program, hparse, rfl⟩ | ⟨hlanguage, program, hparse, rfl⟩
  · rw [hlanguage] at hlaidOut
    exact Python.spansNest_extraction path (Python.areStatements_of_parse? hparse)
      (hlaidOut program hparse)
  · rw [hlanguage] at hlaidOut
    exact JavaScript.spansNest_extraction path (hlaidOut program hparse)

/-- A class with a decorator and a method, and a variable behind it. -/
def decoratedBox : String :=
  "@mark\nclass Box:\n    def größe(self):\n        pass\nbox = 1\n"

/-- A function that is the value of a declaration, and a class with a method. -/
def declaredArrow : String :=
  "const pick = () =>\n  load();\nclass Box \x7b\n  put() \x7b\x7d\n\x7d\n"

/-- The decorator is no part of the class, and the function spans all of its declarator. -/
theorem spansNest_decoratedBox_declaredArrow :
    (∃ read, extract "app.py" decoratedBox = .ok read ∧ IsLaidOut "app.py" decoratedBox ∧
      read.SpansNest decoratedBox ∧ read.declarations.map (fun declaration ↦
        (declaration.parent, declaration.span)) =
          [(none, ⟨1, 5, 0, 61⟩), (some 0, ⟨2, 4, 6, 52⟩), (some 1, ⟨3, 4, 21, 52⟩),
            (some 0, ⟨5, 5, 53, 60⟩)]) ∧
    ∃ read, extract "app.js" declaredArrow = .ok read ∧ IsLaidOut "app.js" declaredArrow ∧
      read.SpansNest declaredArrow ∧ read.declarations.map (fun declaration ↦
        (declaration.parent, declaration.span)) =
          [(none, ⟨1, 5, 0, 54⟩), (some 0, ⟨1, 2, 6, 27⟩), (some 0, ⟨3, 5, 29, 53⟩),
            (some 2, ⟨4, 4, 43, 51⟩)] := by
  constructor
  · have hlaidOut : IsLaidOut "app.py" decoratedBox := by
      have hlanguage : Language.ofPath? "app.py" = some .python := by decide +kernel
      rw [IsLaidOut, hlanguage]
      decide +kernel
    have hview : (extract "app.py" decoratedBox).toOption.map (fun read ↦
        read.declarations.map fun declaration ↦ (declaration.parent, declaration.span)) =
        some [(none, ⟨1, 5, 0, 61⟩), (some 0, ⟨2, 4, 6, 52⟩), (some 1, ⟨3, 4, 21, 52⟩),
          (some 0, ⟨5, 5, 53, 60⟩)] := by
      decide +kernel
    obtain ⟨read, hread, hseen⟩ := exists_extract_of_map hview
    exact ⟨read, hread, hlaidOut, spansNest_extract hread hlaidOut, hseen⟩
  · have hlaidOut : IsLaidOut "app.js" declaredArrow := by
      have hlanguage : Language.ofPath? "app.js" = some .javaScript := by decide +kernel
      rw [IsLaidOut, hlanguage]
      decide +kernel
    have hview : (extract "app.js" declaredArrow).toOption.map (fun read ↦
        read.declarations.map fun declaration ↦ (declaration.parent, declaration.span)) =
        some [(none, ⟨1, 5, 0, 54⟩), (some 0, ⟨1, 2, 6, 27⟩), (some 0, ⟨3, 5, 29, 53⟩),
          (some 2, ⟨4, 4, 43, 51⟩)] := by
      decide +kernel
    obtain ⟨read, hread, hseen⟩ := exists_extract_of_map hview
    exact ⟨read, hread, hlaidOut, spansNest_extract hread hlaidOut, hseen⟩

end SourceFile

end SymbolGraph
