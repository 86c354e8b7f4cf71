import SymbolGraph.Proofs.Extraction.Record
import SymbolGraph.Proofs.Ingest.Nesting

/-!
# What is recorded of a JavaScript program

Every call of a simple name is recorded once, in source order and with the innermost definition
around it, unless the extraction passes over it (`SourceFile.recordsCalls_extract`). It passes over
the call by which a declarator of the module loads another one, and that is meant. But it also
passes over decorators, the patterns of declarators, the computed names of fields and the attributes
of imports, and calls that stand there are lost (`SourceFile.not_recordsCalls_defaultedPattern`).

The invariant of the walk is that its scope says what is around the address at which it is, and that
the address is not passed over (`Scope.IsAt`). Classes that are written where a class says what it
extends are declared before that class; so definitions are in the order in which nodes are listed
(`Address.ListedBefore`), and only calls are in source order.
-/

set_option autoImplicit false
set_option relaxedAutoImplicit false

namespace SymbolGraph.JavaScript

/-! ### Nodes -/

/-- The nodes of a program. -/
inductive Node where
  | tree (tree : Tree)
  | element (element : ClassElement)

/-- No function and no class is around the address. -/
def isAtModule (address : Address) : Bool :=
  address.all fun step ↦ !step.part.isBody && step.part ≠ .nameless

/-- The call at the address loads a module and is recorded as an import. -/
def isConsumed : Address → Bool
  | [] => false
  | step :: around => step.part = .loading && isAtModule around

/-- No extraction looks at the address: it is in a decorator, in the pattern of a declarator, in the
computed name of a field, in the attributes of an import or in a call that is recorded as one. -/
def isPassedOver : Address → Bool
  | [] => false
  | step :: around => step.part = .aside || isConsumed (step :: around) || isPassedOver around

theorem isPassedOver_of_suffix {first second : Address} (hsuffix : second <:+ first)
    (hpassed : isPassedOver second = true) : isPassedOver first = true := by
  induction first with
  | nil =>
    rw [List.suffix_nil.mp hsuffix] at hpassed
    cases hpassed
  | cons step around ih =>
    rcases List.suffix_cons_iff.mp hsuffix with rfl | hsuffix
    · exact hpassed
    · simp [isPassedOver, ih hsuffix]

/-- The parts of an element of a class, in order. -/
def ClassElement.parts : ClassElement → List Tree
  | .method _ _ aside function => aside ++ (function.parameters ++ function.body)
  | .field _ _ aside value => aside ++ value.toList
  | .block parts => parts

/-- The part in which a declarator holds its value. -/
def Target.valuePart (target : Target) (value : Option Tree) : Part :=
  match required? target value with
  | some _ => .loading
  | none => .piece

theorem Target.valuePart_cases (target : Target) (value : Option Tree) :
    target.valuePart value = .loading ∨ target.valuePart value = .piece := by
  unfold Target.valuePart
  split
  · exact .inl rfl
  · exact .inr rfl

theorem Target.isBody_valuePart (target : Target) (value : Option Tree) :
    (target.valuePart value).isBody = false := by
  rcases target.valuePart_cases value with hpart | hpart
  · rw [hpart]
    rfl
  · rw [hpart]
    rfl

/-- What a function with a name holds in a part. -/
def NamedFunction.held (named : NamedFunction) : Part → List Tree
  | .aside => named.aside
  | .parameters => named.function.parameters
  | .functionBody => named.function.body
  | _ => []

/-- What a tree that declares no function holds in a part. -/
def Tree.held : Tree → Part → List Node
  | .call _ _ _ parts, .piece => parts.map .tree
  | .functionValue function, .nameless => (function.parameters ++ function.body).map .tree
  | .classDefinition _ _ aside _ _, .aside => aside.map .tree
  | .classDefinition _ _ _ heritage _, .bases => heritage.map .tree
  | .classDefinition (some _) _ _ _ elements, .classBody => elements.map .element
  | .classDefinition none _ _ _ elements, .nameless =>
    (elements.flatMap ClassElement.parts).map .tree
  | .declarator _ _ aside _, .aside => aside.map .tree
  | .declarator target _ _ value, part =>
    if part = target.valuePart value then value.toList.map .tree else []
  | .imports _ _ _ aside, .aside => aside.map .tree
  | .group parts, .piece => parts.map .tree
  | _, _ => []

theorem Tree.held_declarator (target : Target) (extent : Extent) (aside : List Tree)
    (value : Option Tree) {part : Part} (hpart : part ≠ .aside) :
    (declarator target extent aside value).held part =
      if part = target.valuePart value then value.toList.map .tree else [] := by
  cases part with
  | aside => exact absurd rfl hpart
  | _ => rfl

/-- What an element of a class that declares no method holds in a part. -/
def ClassElement.held : ClassElement → Part → List Tree
  | .method name extent aside function, .piece => (method name extent aside function).parts
  | .field _ _ aside _, .aside => aside
  | .field _ _ _ value, .piece => value.toList
  | .block parts, .piece => parts
  | _, _ => []

theorem Function.sizeOf_lt_of_mem {function : Function} {child : Tree}
    (hchild : child ∈ function.parameters ++ function.body) : sizeOf child < sizeOf function := by
  obtain ⟨written, parameters, body⟩ := function
  rw [Function.mk.sizeOf_spec]
  rcases List.mem_append.mp hchild with hchild | hchild
  · have hlt : sizeOf child < sizeOf parameters := List.sizeOf_lt_of_mem hchild
    omega
  · have hlt : sizeOf child < sizeOf body := List.sizeOf_lt_of_mem hchild
    omega

theorem NamedFunction.sizeOf_lt_of_mem_held {named : NamedFunction} {child : Tree} {part : Part}
    (hchild : child ∈ named.held part) :
    child ∈ named.aside ∨ sizeOf child < sizeOf named.function := by
  cases part with
  | aside => exact .inl hchild
  | parameters => exact .inr (Function.sizeOf_lt_of_mem (List.mem_append_left _ hchild))
  | functionBody => exact .inr (Function.sizeOf_lt_of_mem (List.mem_append_right _ hchild))
  | _ => cases hchild

theorem ClassElement.sizeOf_lt_of_mem_parts {element : ClassElement} {child : Tree}
    (hchild : child ∈ element.parts) : sizeOf child < sizeOf element := by
  cases element with
  | method name extent aside function =>
    rw [ClassElement.method.sizeOf_spec]
    rcases List.mem_append.mp hchild with hchild | hchild
    · have hlt := List.sizeOf_lt_of_mem hchild
      omega
    · have hlt := Function.sizeOf_lt_of_mem hchild
      omega
  | field name extent aside value =>
    rw [ClassElement.field.sizeOf_spec]
    rcases List.mem_append.mp hchild with hchild | hchild
    · have hlt := List.sizeOf_lt_of_mem hchild
      omega
    · obtain rfl := Option.mem_toList.mp hchild
      rw [Option.some.sizeOf_spec]
      omega
  | block parts =>
    have hlt : sizeOf child < sizeOf parts := List.sizeOf_lt_of_mem hchild
    rw [ClassElement.block.sizeOf_spec]
    omega

theorem ClassElement.mem_parts_of_mem_held {element : ClassElement} {child : Tree} {part : Part}
    (hchild : child ∈ element.held part) : child ∈ element.parts := by
  unfold ClassElement.held at hchild
  split at hchild
  · exact hchild
  · exact List.mem_append_left _ hchild
  · exact List.mem_append_right _ hchild
  · exact hchild
  · cases hchild

theorem Node.sizeOf_le_of_mem_map {trees : List Tree} {child : Node}
    (hchild : child ∈ trees.map .tree) : sizeOf child ≤ sizeOf trees := by
  obtain ⟨inner, hinner, rfl⟩ := List.mem_map.mp hchild
  have hlt := List.sizeOf_lt_of_mem hinner
  rw [Node.tree.sizeOf_spec]
  omega

theorem Tree.sizeOf_lt_of_mem_held {tree : Tree} {child : Node} {part : Part}
    (hchild : child ∈ tree.held part) : sizeOf child < sizeOf (Node.tree tree) := by
  -- One case for each equation of `Tree.held`; those left to the end hold a list of trees.
  unfold Tree.held at hchild
  split at hchild
  case h_2 function =>
    obtain ⟨inner, hinner, rfl⟩ := List.mem_map.mp hchild
    have hlt := Function.sizeOf_lt_of_mem hinner
    simp only [Node.tree.sizeOf_spec, Tree.functionValue.sizeOf_spec]
    omega
  case h_5 elements =>
    obtain ⟨element, helement, rfl⟩ := List.mem_map.mp hchild
    have hlt := List.sizeOf_lt_of_mem helement
    simp only [Node.element.sizeOf_spec, Node.tree.sizeOf_spec, Tree.classDefinition.sizeOf_spec]
    omega
  case h_6 elements =>
    obtain ⟨inner, hinner, rfl⟩ := List.mem_map.mp hchild
    obtain ⟨element, helement, hinner⟩ := List.mem_flatMap.mp hinner
    have hlt := ClassElement.sizeOf_lt_of_mem_parts hinner
    have hlt' := List.sizeOf_lt_of_mem helement
    simp only [Node.tree.sizeOf_spec, Tree.classDefinition.sizeOf_spec]
    omega
  case h_8 target extent aside value _ =>
    obtain ⟨-, hchild⟩ := List.mem_ite_nil_right.mp hchild
    obtain ⟨inner, hinner, rfl⟩ := List.mem_map.mp hchild
    obtain rfl := Option.mem_toList.mp hinner
    simp only [Node.tree.sizeOf_spec, Tree.declarator.sizeOf_spec, Option.some.sizeOf_spec]
    omega
  case h_11 => cases hchild
  all_goals
    have hle := Node.sizeOf_le_of_mem_map hchild
    simp only [Node.tree.sizeOf_spec, Tree.call.sizeOf_spec, Tree.classDefinition.sizeOf_spec,
      Tree.declarator.sizeOf_spec, Tree.imports.sizeOf_spec, Tree.group.sizeOf_spec]
    omega

/-- The function or the method that a node declares. -/
def Node.named? : Node → Option NamedFunction
  | .tree outer => outer.named?
  | .element outer => outer.named?

/-- The kind of the function that a node may declare. -/
def Node.functionKind : Node → SymbolKind
  | .tree _ => .function
  | .element _ => .method

theorem Node.sizeOf_lt_of_named? {node : Node} {named : NamedFunction}
    (hnamed : node.named? = some named) {child : Tree} {part : Part}
    (hchild : child ∈ named.held part) : sizeOf (Node.tree child) < sizeOf node := by
  cases node with
  | tree outer =>
    obtain ⟨hfunction, haside⟩ := Tree.sizeOf_lt_of_named? hnamed
    rcases NamedFunction.sizeOf_lt_of_mem_held hchild with hmem | hlt
    · simpa using haside child hmem
    · simpa using Nat.lt_trans hlt hfunction
  | element outer =>
    obtain ⟨hfunction, haside⟩ := ClassElement.sizeOf_lt_of_named? hnamed
    rcases NamedFunction.sizeOf_lt_of_mem_held hchild with hmem | hlt
    · simpa using haside child hmem
    · simpa using Nat.lt_trans hlt hfunction

namespace Node

instance : SyntaxNode Node where
  held node part :=
    match node.named?, node with
    | some named, _ => (named.held part).map tree
    | none, tree outer => outer.held part
    | none, element outer => (outer.held part).map tree
  sizeOf_lt := by
    intro node child part hchild
    split at hchild
    · rename_i hnamed
      obtain ⟨inner, hinner, rfl⟩ := List.mem_map.mp hchild
      exact sizeOf_lt_of_named? hnamed hinner
    · exact Tree.sizeOf_lt_of_mem_held hchild
    · obtain ⟨inner, hinner, rfl⟩ := List.mem_map.mp hchild
      simpa using ClassElement.sizeOf_lt_of_mem_parts (ClassElement.mem_parts_of_mem_held hinner)

/-- Functions, classes with a name and the methods in them, wherever the extraction looks; variables
of the module. -/
def definition? (address : Address) (node : Node) : Option Definition :=
  if isPassedOver address then none else
    match node.named?, node with
    | some named, _ =>
      some ⟨node.functionKind, named.name, some named.function.written.signature, named.extent⟩
    | none, tree (.classDefinition (some name) extent _ _ _) =>
      some ⟨.classType, name, none, extent⟩
    | none, tree (.declarator (.identifier name) extent _ value) =>
      if isAtModule address && (required? (.identifier name) value).isNone then
        some ⟨.variable, name, none, extent⟩
      else none
    | none, _ => none

/-- Calls of simple names that are not skipped. -/
def mention? (skipped : Address → Bool) (address : Address) : Node → Option Mention
  | .tree (.call callee _ line _) =>
    if isSimpleCallee callee && !skipped address then some ⟨callee, line⟩ else none
  | _ => none

/-- How JavaScript trees are read if the calls at some addresses are skipped. -/
def reading (skipped : Address → Bool) : NodeReading Node := ⟨definition?, mention? skipped⟩

theorem definition?_of_isPassedOver {address : Address} (hpassed : isPassedOver address = true)
    (node : Node) : node.definition? address = none := by
  simp [definition?, hpassed]

theorem mention?_of_isPassedOver {address : Address} (hpassed : isPassedOver address = true)
    (node : Node) : node.mention? isPassedOver address = none := by
  unfold mention?
  split
  · simp [hpassed]
  · rfl

theorem definition?_element {inner : ClassElement} (hnamed : inner.named? = none)
    (address : Address) : (element inner).definition? address = none := by
  simp [definition?, named?, hnamed]

theorem mention?_of_named? {node : Node} {named : NamedFunction}
    (hnamed : node.named? = some named) (skipped : Address → Bool) (address : Address) :
    node.mention? skipped address = none := by
  unfold mention?
  split
  · cases hnamed
  · rfl

section Occurrences

variable (address : Address) (extent : Extent) (aside : List Tree)

/-- What occurs in a function or method with a name. -/
theorem occurrences_of_named? {node : Node} {named : NamedFunction}
    (hnamed : node.named? = some named) : occurrences address node =
      occurrencesIn address (stepsTo .aside 0 (named.aside.map tree)) ++
        (occurrencesIn address (stepsTo .parameters 0 (named.function.parameters.map tree)) ++
          ⟨address, node⟩ ::
            occurrencesIn address (stepsTo .functionBody 0 (named.function.body.map tree))) := by
  rw [occurrences_eq]
  simp [children, Part.heading, Part.interior, SyntaxNode.held, hnamed, NamedFunction.held]

theorem occurrences_call (callee : String) (argument : Option String) (line : Int)
    (parts : List Tree) : occurrences address (tree (.call callee argument line parts)) =
      ⟨address, tree (.call callee argument line parts)⟩ ::
        occurrencesIn address (stepsTo .piece 0 (parts.map tree)) := by
  rw [occurrences_eq]
  simp [children, Part.heading, Part.interior, SyntaxNode.held, named?, Tree.named?, Tree.held]

theorem occurrences_functionValue (function : Function) :
    occurrences address (tree (.functionValue function)) =
      ⟨address, tree (.functionValue function)⟩ :: occurrencesIn address
        (stepsTo .nameless 0 ((function.parameters ++ function.body).map tree)) := by
  rw [occurrences_eq]
  simp [children, Part.heading, Part.interior, SyntaxNode.held, named?, Tree.named?, Tree.held]

theorem occurrences_class (name : Label) (heritage : List Tree) (elements : List ClassElement) :
    occurrences address (tree (.classDefinition (some name) extent aside heritage elements)) =
      occurrencesIn address (stepsTo .aside 0 (aside.map tree)) ++
        (occurrencesIn address (stepsTo .bases 0 (heritage.map tree)) ++
          ⟨address, tree (.classDefinition (some name) extent aside heritage elements)⟩ ::
            occurrencesIn address (stepsTo .classBody 0 (elements.map element))) := by
  rw [occurrences_eq]
  simp [children, Part.heading, Part.interior, SyntaxNode.held, named?, Tree.named?, Tree.held]

theorem occurrences_namelessClass (heritage : List Tree) (elements : List ClassElement) :
    occurrences address (tree (.classDefinition none extent aside heritage elements)) =
      occurrencesIn address (stepsTo .aside 0 (aside.map tree)) ++
        (occurrencesIn address (stepsTo .bases 0 (heritage.map tree)) ++
          ⟨address, tree (.classDefinition none extent aside heritage elements)⟩ ::
            occurrencesIn address
              (stepsTo .nameless 0 ((elements.flatMap ClassElement.parts).map tree))) := by
  rw [occurrences_eq]
  simp [children, Part.heading, Part.interior, SyntaxNode.held, named?, Tree.named?, Tree.held]

theorem occurrences_declarator {target : Target} {value : Option Tree}
    (hnamed : (Tree.declarator target extent aside value).named? = none) :
    occurrences address (tree (.declarator target extent aside value)) =
      occurrencesIn address (stepsTo .aside 0 (aside.map tree)) ++
        ⟨address, tree (.declarator target extent aside value)⟩ :: occurrencesIn address
          (stepsTo (target.valuePart value) 0 (value.toList.map tree)) := by
  rw [occurrences_eq]
  rcases target.valuePart_cases value with hpart | hpart
  · simp [children, Part.heading, Part.interior, SyntaxNode.held, named?, hnamed, Tree.held, hpart]
  · simp [children, Part.heading, Part.interior, SyntaxNode.held, named?, hnamed, Tree.held, hpart]

theorem occurrences_imports (source : String) (items : Option (List ImportItem)) (line : Int) :
    occurrences address (tree (.imports source items line aside)) =
      occurrencesIn address (stepsTo .aside 0 (aside.map tree)) ++
        [⟨address, tree (.imports source items line aside)⟩] := by
  rw [occurrences_eq]
  simp [children, Part.heading, Part.interior, SyntaxNode.held, named?, Tree.named?, Tree.held]

theorem occurrences_group (parts : List Tree) : occurrences address (tree (.group parts)) =
    ⟨address, tree (.group parts)⟩ ::
      occurrencesIn address (stepsTo .piece 0 (parts.map tree)) := by
  rw [occurrences_eq]
  simp [children, Part.heading, Part.interior, SyntaxNode.held, named?, Tree.named?, Tree.held]

theorem occurrences_method {name : String} {function : Function}
    (hnamed : (ClassElement.method name extent aside function).named? = none) :
    occurrences address (element (.method name extent aside function)) =
      ⟨address, element (.method name extent aside function)⟩ :: occurrencesIn address
        (stepsTo .piece 0 ((aside ++ (function.parameters ++ function.body)).map tree)) := by
  rw [occurrences_eq]
  simp [children, Part.heading, Part.interior, SyntaxNode.held, named?, hnamed, ClassElement.held,
    ClassElement.parts]

theorem occurrences_field {name : String} {value : Option Tree}
    (hnamed : (ClassElement.field name extent aside value).named? = none) :
    occurrences address (element (.field name extent aside value)) =
      occurrencesIn address (stepsTo .aside 0 (aside.map tree)) ++
        ⟨address, element (.field name extent aside value)⟩ ::
          occurrencesIn address (stepsTo .piece 0 (value.toList.map tree)) := by
  rw [occurrences_eq]
  simp [children, Part.heading, Part.interior, SyntaxNode.held, named?, hnamed, ClassElement.held]

theorem occurrences_block (parts : List Tree) : occurrences address (element (.block parts)) =
    ⟨address, element (.block parts)⟩ ::
      occurrencesIn address (stepsTo .piece 0 (parts.map tree)) := by
  rw [occurrences_eq]
  simp [children, Part.heading, Part.interior, SyntaxNode.held, named?, ClassElement.named?,
    ClassElement.held]

end Occurrences

end Node

/-! ### The walk -/

variable {number : Option Address → Nat} {scope : Scope} {address : Address}

/-- The scope says what is around the address, and the address is not passed over. -/
structure Scope.IsAt (number : Option Address → Nat) (scope : Scope) (address : Address) :
    Prop where
  owner : scope.owner = number address.definition?
  atModule : scope.atModule = isAtModule address
  isPassedOver : isPassedOver address = false

namespace Scope.IsAt

/-- No definition is around the top of a program. -/
theorem top (hmodule : number none = 0) (index : Nat) :
    Scope.top.IsAt number [⟨.piece, index⟩] :=
  ⟨hmodule.symm, rfl, rfl⟩

/-- What is in no body, has a name and is looked at everywhere is where the node itself is. -/
theorem part (hscope : scope.IsAt number address) {part : Part} (hbody : part.isBody = false)
    (hpart : part ∉ [Part.aside, .nameless, .loading]) (index : Nat) :
    scope.IsAt number (⟨part, index⟩ :: address) := by
  obtain ⟨howner, hmodule, hpassed⟩ := hscope
  simp only [List.mem_cons, List.not_mem_nil, or_false, not_or] at hpart
  obtain ⟨haside, hnameless, hloading⟩ := hpart
  refine ⟨?_, ?_, ?_⟩
  · rwa [Address.definition?_cons hbody]
  · simpa [JavaScript.isAtModule, hbody, hnameless] using hmodule
  · simpa [JavaScript.isPassedOver, isConsumed, haside, hloading] using hpassed

/-- What is in something without a name is in the same symbol. -/
theorem nameless (hscope : scope.IsAt number address) (index : Nat) :
    scope.nameless.IsAt number (⟨.nameless, index⟩ :: address) :=
  ⟨hscope.owner, rfl, hscope.isPassedOver⟩

/-- Inside a function or a class a call that loads a module is like any other. -/
theorem loading (hscope : scope.IsAt number address) (hinside : scope.atModule = false)
    (index : Nat) : scope.IsAt number (⟨.loading, index⟩ :: address) := by
  have hmodule := hscope.atModule.symm.trans hinside
  refine ⟨hscope.owner, hscope.atModule, ?_⟩
  simp [JavaScript.isPassedOver, isConsumed, hmodule, hscope.isPassedOver]

/-- The body of a definition is inside it. -/
theorem body (hscope : scope.IsAt number address) {part : Part} (hbody : part.isBody = true)
    (index : Nat) :
    (Scope.inside (number (some address))).IsAt number (⟨part, index⟩ :: address) := by
  cases part with
  | functionBody => exact ⟨rfl, rfl, hscope.isPassedOver⟩
  | classBody => exact ⟨rfl, rfl, hscope.isPassedOver⟩
  | _ => cases hbody

end Scope.IsAt

/-- Of what is passed over nothing is recorded. -/
theorem records_passedOver {part : Part}
    (hpassed : ∀ index, isPassedOver (⟨part, index⟩ :: address) = true) (nodes : List Node)
    {before after : Extraction} (hdeclarations : after.declarations = before.declarations)
    (hcalls : after.calls = before.calls) :
    Records (Node.reading isPassedOver) number (occurrencesIn address (stepsTo part 0 nodes))
      before after := by
  have hinside : ∀ node ∈ occurrencesIn address (stepsTo part 0 nodes),
      isPassedOver node.address = true := by
    intro node hnode
    obtain ⟨⟨⟨part', index⟩, top⟩, hstep, hmem⟩ := mem_occurrencesIn_iff.mp hnode
    obtain ⟨rfl, -⟩ := mem_stepsTo_iff.mp hstep
    exact isPassedOver_of_suffix (suffix_of_mem_occurrences hmem) (hpassed index)
  exact .passedOver (fun node hnode ↦ Node.definition?_of_isPassedOver (hinside node hnode) _)
    (fun node hnode ↦ Node.mention?_of_isPassedOver (hinside node hnode) _) hdeclarations hcalls

/-- Nothing is recorded of what an extraction does not look at. -/
theorem records_aside (nodes : List Node) (extraction : Extraction) :
    Records (Node.reading isPassedOver) number (occurrencesIn address (stepsTo .aside 0 nodes))
      extraction extraction :=
  records_passedOver (fun _ ↦ rfl) nodes rfl rfl

/-- One walk after another through trees that stand in a row. -/
theorem records_append_parts {first second : List Tree} {part : Part} {index : Nat}
    {before middle after : Extraction}
    (hfirst : Records (Node.reading isPassedOver) number
      (occurrencesIn address (stepsTo part index (first.map .tree))) before middle)
    (hsecond : Records (Node.reading isPassedOver) number
      (occurrencesIn address (stepsTo part (index + first.length) (second.map .tree))) middle
        after) :
    Records (Node.reading isPassedOver) number
      (occurrencesIn address (stepsTo part index ((first ++ second).map .tree))) before after := by
  rw [List.map_append, stepsTo_append, occurrencesIn_append, List.length_map]
  exact hfirst.append hsecond

/-- A walk through the value of a declarator records what occurs in it, unless the declarator is
recorded as an import. -/
theorem records_value (hscope : scope.IsAt number address) {target : Target} {extent : Extent}
    {aside : List Tree} {value : Option Tree} {extraction : Extraction}
    (hnamed : (Tree.declarator target extent aside value).named? = none)
    (hvalue : ∀ part declared, (∀ index, scope.IsAt number (⟨part, index⟩ :: address)) →
      Records (Node.reading isPassedOver) number
        (occurrencesIn address (stepsTo part 0 (value.toList.map .tree))) declared
        (extractValue scope declared value)) :
    Records (Node.reading isPassedOver) number
      (⟨address, .tree (.declarator target extent aside value)⟩ ::
        occurrencesIn address (stepsTo (target.valuePart value) 0 (value.toList.map .tree)))
      extraction ((Tree.declarator target extent aside value).extract scope extraction) := by
  cases hrequired : required? target value with
  | some required =>
    have hpart : target.valuePart value = .loading := by
      rw [Target.valuePart, hrequired]
    rw [Tree.extract_declarator hnamed, hpart, hrequired]
    have hdefinition : Node.definition? address (.tree (.declarator target extent aside value)) =
        none := by
      cases target with
      | identifier => simp [Node.definition?, Node.named?, hnamed, hrequired]
      | _ => simp [Node.definition?, Node.named?, hnamed]
    refine .skip hdefinition rfl ?_
    cases hmodule : scope.atModule with
    | true =>
      refine records_passedOver (fun index ↦ ?_) _ rfl rfl
      simp [isPassedOver, isConsumed, ← hscope.atModule, hmodule]
    | false =>
      simpa [declareVariable, hmodule] using hvalue .loading extraction (hscope.loading hmodule)
  | none =>
    have hpart : target.valuePart value = .piece := by
      rw [Target.valuePart, hrequired]
    have hrest := fun declared ↦ hvalue .piece declared (hscope.part rfl (by decide))
    rw [Tree.extract_declarator_of_none hnamed hrequired, hpart]
    by_cases hvariable : ∃ name, target = .identifier name ∧ scope.atModule = true
    · obtain ⟨name, rfl, hmodule⟩ := hvariable
      have hdefinition : Node.definition? address
          (.tree (.declarator (.identifier name) extent aside value)) =
            some ⟨.variable, name, none, extent⟩ := by
        simp [Node.definition?, Node.named?, hnamed, hrequired, hscope.isPassedOver,
          ← hscope.atModule, hmodule]
      have hdeclare : declareVariable scope (.identifier name) extent extraction =
          extraction.declare (number address.definition?) .variable name none extent := by
        simp [declareVariable, hmodule, hscope.owner]
      rw [hdeclare]
      exact .define hdefinition rfl fun _ ↦ hrest _
    · have hdefinition : Node.definition? address
          (.tree (.declarator target extent aside value)) = none := by
        cases target with
        | identifier name =>
          have hmodule := Bool.eq_false_iff.mpr fun hmodule ↦ hvariable ⟨name, rfl, hmodule⟩
          simp [Node.definition?, Node.named?, hnamed, ← hscope.atModule, hmodule]
        | _ => simp [Node.definition?, Node.named?, hnamed]
      have hdeclare : declareVariable scope target extent extraction = extraction := by
        unfold declareVariable
        split
        · rename_i name hmodule
          exact absurd ⟨name, rfl, hmodule⟩ hvariable
        · rfl
      rw [hdeclare]
      exact .skip hdefinition rfl (hrest extraction)

mutual

/-- A walk through a tree records what occurs in it. -/
theorem records_extract : ∀ (tree : Tree) (scope : Scope) (address : Address)
    (extraction : Extraction), scope.IsAt number address →
      Records (Node.reading isPassedOver) number (occurrences address (.tree tree)) extraction
        (tree.extract scope extraction)
  | .call callee argument line parts, scope, address, extraction, hscope => by
    rw [Node.occurrences_call, Tree.extract]
    have hmention : Node.mention? isPassedOver address (.tree (.call callee argument line parts)) =
        if isSimpleCallee callee then some ⟨callee, line⟩ else none := by
      simp [Node.mention?, hscope.isPassedOver]
    have hdefinition : Node.definition? address (.tree (.call callee argument line parts)) =
        none := by
      simp [Node.definition?, Node.named?, Tree.named?]
    refine .mention hdefinition hmention ?_
    rw [← hscope.owner]
    exact records_extractAll parts scope address .piece 0 _ (hscope.part rfl (by decide))
  | .functionDeclaration name extent function, scope, address, extraction, hscope =>
    records_function function (.tree (.functionDeclaration name extent function)) rfl scope address
      extraction hscope
  | .functionValue function, scope, address, extraction, hscope => by
    have hdefinition : Node.definition? address (.tree (.functionValue function)) = none := by
      simp [Node.definition?, Node.named?, Tree.named?]
    rw [Node.occurrences_functionValue, Tree.extract]
    exact .skip hdefinition rfl
      (records_functionParts function scope.nameless address .nameless 0 extraction
        hscope.nameless)
  | .classDefinition (some name) extent aside heritage elements, scope, address, extraction,
      hscope => by
    have houtside := records_extractAll heritage scope address .bases 0 extraction
      (hscope.part rfl (by decide))
    have hdefinition : Node.definition? address
        (.tree (.classDefinition (some name) extent aside heritage elements)) =
          some ⟨.classType, name, none, extent⟩ := by
      simp [Node.definition?, hscope.isPassedOver, Node.named?, Tree.named?]
    rw [Node.occurrences_class, Tree.extract, hscope.owner]
    refine (records_aside _ _).append
      (houtside.append (.define hdefinition rfl fun hnumber ↦ ?_))
    rw [← hnumber]
    exact records_extractElements elements _ address .classBody 0 _ (hscope.body rfl)
  | .classDefinition none extent aside heritage elements, scope, address, extraction, hscope => by
    have houtside := records_extractAll heritage scope address .bases 0 extraction
      (hscope.part rfl (by decide))
    have hdefinition : Node.definition? address
        (.tree (.classDefinition none extent aside heritage elements)) = none := by
      simp [Node.definition?, Node.named?, Tree.named?]
    rw [Node.occurrences_namelessClass, Tree.extract]
    exact (records_aside _ _).append (houtside.append (.skip hdefinition rfl
      (records_extractElementParts elements scope.nameless address .nameless 0 _
        hscope.nameless)))
  | .declarator target extent aside value, scope, address, extraction, hscope => by
    cases hnamed : (Tree.declarator target extent aside value).named? with
    | some named =>
      have hnode : Node.named? (.tree (.declarator target extent aside value)) = some named :=
        hnamed
      rw [Tree.extract_of_named? hnamed]
      exact records_function named.function _ hnode scope address extraction hscope
    | none =>
      rw [Node.occurrences_declarator _ _ _ hnamed]
      refine (records_aside _ extraction).append (records_value hscope hnamed
        fun part declared ↦ records_extractValue value scope address part 0 declared)
  | .imports source items line aside, scope, address, extraction, hscope => by
    have hdefinition : Node.definition? address (.tree (.imports source items line aside)) =
        none := by
      simp [Node.definition?, Node.named?, Tree.named?]
    rw [Node.occurrences_imports, Tree.extract]
    refine (records_aside _ extraction).append (.passedOver
      (List.forall_mem_singleton.mpr hdefinition) (List.forall_mem_singleton.mpr rfl) ?_ ?_)
    · split
      · rfl
      · rfl
    · split
      · rfl
      · rfl
  | .group parts, scope, address, extraction, hscope => by
    have hdefinition : Node.definition? address (.tree (.group parts)) = none := by
      simp [Node.definition?, Node.named?, Tree.named?]
    rw [Node.occurrences_group, Tree.extract]
    exact .skip hdefinition rfl
      (records_extractAll parts scope address .piece 0 _ (hscope.part rfl (by decide)))
termination_by tree => sizeOf tree
decreasing_by
  all_goals first
    | exact (Tree.sizeOf_lt_of_named? ‹_›).1
    | decreasing_tactic

/-- A walk through a function with a name records what occurs in the node that declares it. -/
theorem records_function : ∀ (function : Function) (node : Node) {name : Label} {extent : Extent}
    {aside : List Tree}, node.named? = some ⟨name, extent, aside, function⟩ →
      ∀ (scope : Scope) (address : Address) (extraction : Extraction), scope.IsAt number address →
        Records (Node.reading isPassedOver) number (occurrences address node) extraction
          (function.extract scope node.functionKind name extent extraction)
  | ⟨written, parameters, body⟩, node, name, extent, aside, hnamed, scope, address, extraction,
      hscope => by
    have houtside := records_extractAll parameters scope address .parameters 0 extraction
      (hscope.part rfl (by decide))
    have hdefinition : node.definition? address =
        some ⟨node.functionKind, name, some written.signature, extent⟩ := by
      simp [Node.definition?, hscope.isPassedOver, hnamed]
    rw [Node.occurrences_of_named? _ hnamed, Function.extract, hscope.owner]
    refine (records_aside _ _).append (houtside.append
      (.define hdefinition (Node.mention?_of_named? hnamed _ _) fun hnumber ↦ ?_))
    rw [← hnumber]
    exact records_extractAll body _ address .functionBody 0 _ (hscope.body rfl)
termination_by function => sizeOf function

/-- A walk through the parts of a function records what occurs in them. -/
theorem records_functionParts : ∀ (function : Function) (scope : Scope) (address : Address)
    (part : Part) (index : Nat) (extraction : Extraction),
    (∀ index, scope.IsAt number (⟨part, index⟩ :: address)) →
      Records (Node.reading isPassedOver) number (occurrencesIn address
        (stepsTo part index ((function.parameters ++ function.body).map .tree))) extraction
        (function.extractParts scope extraction)
  | ⟨_, parameters, body⟩, scope, address, part, index, extraction, hscope =>
    records_append_parts (records_extractAll parameters scope address part index extraction hscope)
      (records_extractAll body scope address part (index + parameters.length) _ hscope)
termination_by function => sizeOf function

/-- A walk through a value records what occurs in it. -/
theorem records_extractValue : ∀ (value : Option Tree) (scope : Scope) (address : Address)
    (part : Part) (index : Nat) (extraction : Extraction),
    (∀ index, scope.IsAt number (⟨part, index⟩ :: address)) →
      Records (Node.reading isPassedOver) number
        (occurrencesIn address (stepsTo part index (value.toList.map .tree))) extraction
        (extractValue scope extraction value)
  | none, _, _, _, _, extraction, _ => .nil extraction
  | some value, scope, address, part, index, extraction, hscope => by
    have hvalue := records_extract value scope (⟨part, index⟩ :: address) extraction (hscope index)
    simpa [stepsTo_cons, occurrencesIn_cons, extractValue] using hvalue
termination_by value => sizeOf value

/-- A walk through an element of a class records what occurs in it. -/
theorem records_extractElement : ∀ (element : ClassElement) (owner : Nat) (address : Address)
    (extraction : Extraction), (Scope.inside owner).IsAt number address →
      Records (Node.reading isPassedOver) number (occurrences address (.element element)) extraction
        (element.extract owner extraction)
  | .method name extent aside function, owner, address, extraction, hscope => by
    cases hnamed : (ClassElement.method name extent aside function).named? with
    | some named =>
      have hnode : Node.named? (.element (.method name extent aside function)) = some named :=
        hnamed
      rw [ClassElement.extract_of_named? hnamed]
      exact records_function named.function _ hnode (.inside owner) address extraction hscope
    | none =>
      rw [ClassElement.extract_method hnamed, Node.occurrences_method _ _ _ hnamed]
      have haside := records_extractAll aside (.inside owner) address .piece 0 extraction
        (hscope.part rfl (by decide))
      exact .skip (Node.definition?_element hnamed _) rfl (records_append_parts haside
        (records_functionParts function (.inside owner) address .piece (0 + aside.length) _
          (hscope.part rfl (by decide))))
  | .field name extent aside value, owner, address, extraction, hscope => by
    cases hnamed : (ClassElement.field name extent aside value).named? with
    | some named =>
      have hnode : Node.named? (.element (.field name extent aside value)) = some named := hnamed
      rw [ClassElement.extract_of_named? hnamed]
      exact records_function named.function _ hnode (.inside owner) address extraction hscope
    | none =>
      rw [ClassElement.extract_field hnamed, Node.occurrences_field _ _ _ hnamed]
      exact (records_aside _ _).append (.skip (Node.definition?_element hnamed _) rfl
        (records_extractValue value (.inside owner) address .piece 0 extraction
          (hscope.part rfl (by decide))))
  | .block parts, owner, address, extraction, hscope => by
    have hdefinition : Node.definition? address (.element (.block parts)) = none :=
      Node.definition?_element rfl address
    rw [Node.occurrences_block, ClassElement.extract]
    exact .skip hdefinition rfl
      (records_extractAll parts (.inside owner) address .piece 0 _ (hscope.part rfl (by decide)))
termination_by element => sizeOf element
decreasing_by
  all_goals first
    | exact (ClassElement.sizeOf_lt_of_named? ‹_›).1
    | decreasing_tactic

/-- A walk through the parts of an element of a class records what occurs in them. -/
theorem records_elementParts : ∀ (element : ClassElement) (scope : Scope) (address : Address)
    (part : Part) (index : Nat) (extraction : Extraction),
    (∀ index, scope.IsAt number (⟨part, index⟩ :: address)) →
      Records (Node.reading isPassedOver) number
        (occurrencesIn address (stepsTo part index (element.parts.map .tree))) extraction
        (element.extractParts scope extraction)
  | .method name extent aside function, scope, address, part, index, extraction, hscope =>
    records_append_parts (records_extractAll aside scope address part index extraction hscope)
      (records_functionParts function scope address part (index + aside.length) _ hscope)
  | .field name extent aside value, scope, address, part, index, extraction, hscope =>
    records_append_parts (records_extractAll aside scope address part index extraction hscope)
      (records_extractValue value scope address part (index + aside.length) _ hscope)
  | .block parts, scope, address, part, index, extraction, hscope =>
    records_extractAll parts scope address part index extraction hscope
termination_by element => sizeOf element

/-- A walk through trees that stand in a row records what occurs in them. -/
theorem records_extractAll : ∀ (trees : List Tree) (scope : Scope) (address : Address)
    (part : Part) (index : Nat) (extraction : Extraction),
    (∀ index, scope.IsAt number (⟨part, index⟩ :: address)) →
      Records (Node.reading isPassedOver) number
        (occurrencesIn address (stepsTo part index (trees.map .tree))) extraction
        (extractAll scope extraction trees)
  | [], _, _, _, _, extraction, _ => .nil extraction
  | tree :: rest, scope, address, part, index, extraction, hscope => by
    rw [List.map_cons, stepsTo_cons, occurrencesIn_cons, extractAll]
    exact (records_extract tree scope _ extraction (hscope index)).append
      (records_extractAll rest scope address part (index + 1) _ hscope)
termination_by trees => sizeOf trees

/-- A walk through the elements of a class records what occurs in them. -/
theorem records_extractElements : ∀ (elements : List ClassElement) (owner : Nat)
    (address : Address) (part : Part) (index : Nat) (extraction : Extraction),
    (∀ index, (Scope.inside owner).IsAt number (⟨part, index⟩ :: address)) →
      Records (Node.reading isPassedOver) number
        (occurrencesIn address (stepsTo part index (elements.map .element))) extraction
        (extractElements owner extraction elements)
  | [], _, _, _, _, extraction, _ => .nil extraction
  | element :: rest, owner, address, part, index, extraction, hscope => by
    rw [List.map_cons, stepsTo_cons, occurrencesIn_cons, extractElements]
    exact (records_extractElement element owner _ extraction (hscope index)).append
      (records_extractElements rest owner address part (index + 1) _ hscope)
termination_by elements => sizeOf elements

/-- A walk through the elements of a class without a name records what occurs in them. -/
theorem records_extractElementParts : ∀ (elements : List ClassElement) (scope : Scope)
    (address : Address) (part : Part) (index : Nat) (extraction : Extraction),
    (∀ index, scope.IsAt number (⟨part, index⟩ :: address)) →
      Records (Node.reading isPassedOver) number (occurrencesIn address
        (stepsTo part index ((elements.flatMap ClassElement.parts).map .tree))) extraction
        (extractElementParts scope extraction elements)
  | [], _, _, _, _, extraction, _ => .nil extraction
  | element :: rest, scope, address, part, index, extraction, hscope =>
    records_append_parts (records_elementParts element scope address part index extraction hscope)
      (records_extractElementParts rest scope address part (index + element.parts.length) _ hscope)
termination_by elements => sizeOf elements

end

/-! ### Programs -/

/-- A call has no heading, so calls are listed in source order. -/
theorem isListOf_mentions (skipped : Address → Bool) (program : List Node) :
    IsListOf Address.Before program (Node.mention? skipped)
      (pick (Node.mention? skipped) (listing program)) := by
  refine isListOf_pick_before fun {first second inner outer} hinner houter hheading ↦ .inr ?_
  obtain ⟨step, hpart, hsuffix⟩ := hheading
  obtain ⟨child, hchild, -⟩ := hinner.exists_held hsuffix houter
  unfold Node.mention?
  split
  · obtain ⟨part, index⟩ := step
    cases part with
    | piece => simp [Part.heading] at hpart
    | _ => cases hchild
  · rfl

/-- What has a body is a definition, if it is not passed over. -/
theorem Node.definition?_ne_none_of_body {outer child : Node} {part : Part}
    (hbody : part.isBody = true) (hchild : child ∈ SyntaxNode.held outer part) {address : Address}
    (hpassed : isPassedOver address = false) : outer.definition? address ≠ none := by
  unfold Node.definition?
  rw [hpassed, if_neg Bool.false_ne_true]
  cases hnamed : outer.named? with
  | some named => exact Option.some_ne_none _
  | none =>
    simp only [SyntaxNode.held, hnamed] at hchild
    match outer with
    | .tree (.classDefinition (some _) ..) => exact Option.some_ne_none _
    | .tree (.classDefinition none ..) | .tree (.call ..) | .tree (.functionDeclaration ..) |
      .tree (.functionValue _) | .tree (.imports ..) | .tree (.group _) | .element (.method ..) |
      .element (.field ..) | .element (.block _) =>
      rcases Part.eq_of_isBody hbody with rfl | rfl <;> cases hchild
    | .tree (.declarator target _ _ value) =>
      have hvalue : part ≠ target.valuePart value := by
        rintro rfl
        rw [target.isBody_valuePart] at hbody
        cases hbody
      rcases Part.eq_of_isBody hbody with rfl | rfl <;> simp [Tree.held, hvalue] at hchild

/-- The calls of simple names that are not skipped are recorded, and nothing else is recorded as a
call. -/
def RecordsCalls (skipped : Address → Bool) (program : List Tree) (read : Extraction) : Prop :=
  ∃ definitions mentions, IsRecord Address.ListedBefore (Node.reading skipped)
    (program.map .tree) definitions mentions read

/-- A call of a simple name that is not skipped is recorded. -/
theorem RecordsCalls.exists_call {skipped : Address → Bool} {program : List Tree}
    {read : Extraction} (hread : RecordsCalls skipped program read) {address : Address}
    {node : Node} (hstands : StandsAt (program.map .tree) address node) {mention : Mention}
    (hmention : node.mention? skipped address = some mention) :
    ∃ call ∈ read.calls, call.callee = mention.callee ∧ call.line = mention.line := by
  obtain ⟨definitions, mentions, hrecord⟩ := hread
  have hmem : ⟨address, mention⟩ ∈ mentions :=
    (hrecord.mentionsAll.mem_iff _).mpr ⟨node, hstands, hmention⟩
  rw [hrecord.calls]
  exact ⟨_, List.mem_map_of_mem hmem, rfl, rfl⟩

/-- What is read of a program are the calls that are not passed over. -/
theorem recordsCalls_extraction (path source : String) (program : List Tree) :
    RecordsCalls isPassedOver program (extraction path source program) := by
  have hrecords : ∀ number : Option Address → Nat, number none = 0 →
      Records (Node.reading isPassedOver) number (listing (program.map .tree))
        (.ofModule (Specifier.stem path) source) (extraction path source program) :=
    fun _ hmodule ↦ records_extractAll program _ _ _ _ _ (Scope.IsAt.top hmodule)
  refine ⟨_, _, isRecord_pick isListOf_pick_listedBefore (isListOf_mentions _ _)
    (Records.adds_listing hrecords rfl) fun {address around _ _ _ step} hread hsuffix hbody hchild ↦
      Node.definition?_ne_none_of_body hbody hchild (Bool.eq_false_iff.mpr fun hpassed ↦ ?_)⟩
  have hpassed := isPassedOver_of_suffix ((List.suffix_cons step around).trans hsuffix) hpassed
  rcases hread with hread | hread
  · exact hread (Node.definition?_of_isPassedOver hpassed _)
  · exact hread (Node.mention?_of_isPassedOver hpassed _)

end SymbolGraph.JavaScript

namespace SymbolGraph

/-- Of every JavaScript file that is accepted all calls of simple names are recorded that are not
passed over, each once. -/
theorem SourceFile.recordsCalls_extract {path source : String} {read : Extraction}
    (hlanguage : Language.ofPath? path = some .javaScript)
    (hread : extract path source = .ok read) : ∃ program,
      JavaScript.parse? source = some program ∧
        JavaScript.RecordsCalls JavaScript.isPassedOver program read := by
  rcases extract_cases hread with ⟨hother, -⟩ | ⟨-, program, hparse, rfl⟩
  · cases hlanguage.symm.trans hother
  · exact ⟨program, hparse, JavaScript.recordsCalls_extraction path source program⟩

/-- A module with an import, and a class with a method whose parameter has a default. -/
def importingModule : String :=
  "const fs = require(\"fs\");\nclass Box extends base() \x7b\n" ++
    "  put(to = root()) \x7b fs.all(() => new Log()) \x7d\n\x7d\n"

/-- What the class extends is called by the module, the default by the class, and what a function
without a name calls by the method around it. The call that loads a module is an import. -/
theorem SourceFile.recordsCalls_importingModule : ∃ read,
    Language.ofPath? "app.js" = some .javaScript ∧ extract "app.js" importingModule = .ok read ∧
      (∃ program, JavaScript.parse? importingModule = some program ∧
        JavaScript.RecordsCalls JavaScript.isPassedOver program read) ∧
      read.declarations.map (fun declaration ↦ (declaration.kind, declaration.parent)) =
        [(.module, none), (.classType, some 0), (.method, some 1)] ∧
      read.calls = [⟨0, "base", 2⟩, ⟨1, "root", 3⟩, ⟨2, "fs.all", 3⟩, ⟨2, "Log", 3⟩] := by
  have hparts : (extract "app.js" importingModule).toOption.map (fun read ↦
      (read.declarations.map (fun declaration ↦ (declaration.kind, declaration.parent)),
        read.calls)) =
      some ([(.module, none), (.classType, some 0), (.method, some 1)],
        [⟨0, "base", 2⟩, ⟨1, "root", 3⟩, ⟨2, "fs.all", 3⟩, ⟨2, "Log", 3⟩]) := by
    decide +kernel
  have hlanguage : Language.ofPath? "app.js" = some .javaScript := by
    decide +kernel
  obtain ⟨read, hread, hseen⟩ := exists_extract_of_map hparts
  obtain ⟨hdeclarations, hcalls⟩ := Prod.mk.inj hseen
  exact ⟨read, hlanguage, hread, recordsCalls_extract hlanguage hread, hdeclarations, hcalls⟩

/-- A declaration by a pattern with a default. -/
def defaultedPattern : String :=
  "const \x7b size = measure() \x7d = load();\n"

/-- The call of the default is lost, though it is not consumed by an import. -/
theorem SourceFile.not_recordsCalls_defaultedPattern : ∃ program read,
    JavaScript.parse? defaultedPattern = some program ∧
      extract "app.js" defaultedPattern = .ok read ∧ read.calls = [⟨0, "load", 1⟩] ∧
      ¬ JavaScript.RecordsCalls JavaScript.isConsumed program read := by
  have hlost : ((JavaScript.parse? defaultedPattern).bind fun program ↦
      (program.map JavaScript.Node.tree)[0]?.bind fun outer ↦
        (SyntaxNode.held outer .aside)[0]?.bind fun node ↦
          (node.mention? JavaScript.isConsumed [⟨.aside, 0⟩, ⟨.piece, 0⟩]).map (·.callee)) =
      some "measure" := by
    decide +kernel
  obtain ⟨program, hparse, hlost⟩ := Option.bind_eq_some_iff.mp hlost
  obtain ⟨outer, houter, hlost⟩ := Option.bind_eq_some_iff.mp hlost
  obtain ⟨node, hnode, hlost⟩ := Option.bind_eq_some_iff.mp hlost
  obtain ⟨mention, hmention, hmeasure⟩ := Option.map_eq_some_iff.mp hlost
  have hview : (extract "app.js" defaultedPattern).toOption.map (·.calls) =
      some [⟨0, "load", 1⟩] := by
    decide +kernel
  obtain ⟨read, hread, hcalls⟩ := exists_extract_of_map hview
  refine ⟨program, read, hparse, hread, hcalls, fun hrecords ↦ ?_⟩
  obtain ⟨call, hcall, hcallee, -⟩ :=
    hrecords.exists_call (.inside (.top houter) hnode) hmention
  rw [hcalls] at hcall
  obtain rfl := List.mem_singleton.mp hcall
  exact absurd (hcallee.trans hmeasure) (by decide)

end SymbolGraph
