import SymbolGraph.Proofs.Extraction.Nesting
import SymbolGraph.Proofs.Extraction.Occurrence

/-!
# What is recorded of a listing

A `NodeReading` says which nodes define a symbol and which ones mention a call. When the symbols are
numbered by their addresses, a definition is recorded with the number of the innermost definition
around it, and so is a call (`Located.declaration`, `Located.call`). A walk `Records` a list of
nodes when it adds to an extraction what the reading finds in them, in the order of the list and
nothing else, provided that the numbers go on from the symbols that are there already (`Numbers`).

A walk that records the listing of a whole program numbers the symbols by their places in it
(`Records.adds_listing`). What it leaves is the record of the program (`IsRecord`,
`isRecord_pick`): an extraction that has all definitions and all mentions, each once and in order,
and nothing else.
-/

set_option autoImplicit false
set_option relaxedAutoImplicit false

namespace SymbolGraph

/-- What a node defines. -/
structure Definition where
  kind : SymbolKind
  name : Label
  signature : Option String
  extent : Extent

/-- A call that a node makes. -/
structure Mention where
  callee : String
  line : Int

/-- What is read of a node at an address. -/
structure NodeReading (Node : Type) where
  definition? : Address → Node → Option Definition
  mention? : Address → Node → Option Mention

namespace Located

/-- The declaration of a definition, where symbols are numbered by their addresses and the module
has none. -/
def declaration (number : Option Address → Nat) (definition : Located Definition) :
    Declaration where
  tag := number (some definition.address)
  parent := some (number definition.address.definition?)
  kind := definition.item.kind
  name := definition.item.name.text
  signature := definition.item.signature
  span := definition.item.extent.span

/-- The call that is recorded of a mention. -/
def call (number : Option Address → Nat) (mention : Located Mention) : CallMention where
  caller := number mention.address.definition?
  callee := mention.item.callee
  line := mention.item.line

end Located

/-! ### Picking from a listing -/

section Pick

variable {Node α : Type} {item? : Address → Node → Option α}

/-- What a reading finds in nodes, where it finds it. -/
def pick (item? : Address → Node → Option α) (nodes : List (Located Node)) : List (Located α) :=
  nodes.filterMap fun node ↦ (item? node.address node.item).map (⟨node.address, ·⟩)

theorem pick_append (first second : List (Located Node)) :
    pick item? (first ++ second) = pick item? first ++ pick item? second :=
  List.filterMap_append

theorem pick_cons_of_none {node : Located Node} (hnone : item? node.address node.item = none)
    (rest : List (Located Node)) : pick item? (node :: rest) = pick item? rest := by
  rw [pick, List.filterMap_cons_none]
  · rfl
  · rw [hnone, Option.map_none]

theorem pick_cons_of_some {node : Located Node} {item : α}
    (hsome : item? node.address node.item = some item) (rest : List (Located Node)) :
    pick item? (node :: rest) = ⟨node.address, item⟩ :: pick item? rest := by
  rw [pick, List.filterMap_cons_some]
  · rfl
  · rw [hsome, Option.map_some]

theorem mem_pick_iff {nodes : List (Located Node)} {item : Located α} :
    item ∈ pick item? nodes ↔
      ∃ node, ⟨item.address, node⟩ ∈ nodes ∧ item? item.address node = some item.item := by
  rw [pick, List.mem_filterMap]
  constructor
  · rintro ⟨node, hnode, hitem⟩
    obtain ⟨found, hfound, rfl⟩ := Option.map_eq_some_iff.mp hitem
    exact ⟨node.item, hnode, hfound⟩
  · rintro ⟨node, hnode, hitem⟩
    exact ⟨_, hnode, by rw [hitem, Option.map_some]⟩

theorem pick_eq_nil {nodes : List (Located Node)}
    (hnone : ∀ node ∈ nodes, item? node.address node.item = none) : pick item? nodes = [] := by
  refine List.filterMap_eq_nil_iff.mpr fun node hnode ↦ ?_
  rw [hnone node hnode, Option.map_none]

/-- A relation of the addresses of nodes that is inherited by what is picked. -/
theorem pairwise_pick {related : Address → Address → Prop} {nodes : List (Located Node)}
    (hnodes : nodes.Pairwise fun first second ↦ related first.address second.address) :
    (pick item? nodes).Pairwise fun first second ↦ related first.address second.address := by
  refine List.Pairwise.filterMap _ (fun first second hrelated found hfirst other hsecond ↦ ?_)
    hnodes
  obtain ⟨_, -, rfl⟩ := Option.map_eq_some_iff.mp hfirst
  obtain ⟨_, -, rfl⟩ := Option.map_eq_some_iff.mp hsecond
  exact hrelated

end Pick

/-- The items are those that stand in the program, each once and in the order of their addresses. -/
structure IsListOf {Node α : Type} [SizeOf Node] [SyntaxNode Node]
    (related : Address → Address → Prop) (program : List Node)
    (item? : Address → Node → Option α) (items : List (Located α)) : Prop where
  inOrder : items.Pairwise fun first second ↦ related first.address second.address
  mem_iff : ∀ item, item ∈ items ↔
    ∃ node, StandsAt program item.address node ∧ item? item.address node = some item.item

section List

variable {Node α : Type} [SizeOf Node] [SyntaxNode Node] {program : List Node}
  {item? : Address → Node → Option α}

/-- What is picked from a listing is in the order of the listing. -/
theorem isListOf_pick_listedBefore :
    IsListOf Address.ListedBefore program item? (pick item? (listing program)) where
  inOrder := pairwise_pick (pairwise_listing program)
  mem_iff := fun item ↦ by
    simp only [mem_pick_iff, mem_listing_iff]

/-- What is picked from a listing is in source order if nothing is picked from the heading of
something that is picked. -/
theorem isListOf_pick_before
    (hheading : ∀ {first second : Address} {inner outer : Node}, StandsAt program first inner →
      StandsAt program second outer → first.InHeadingOf second →
      item? first inner = none ∨ item? second outer = none) :
    IsListOf Address.Before program item? (pick item? (listing program)) where
  inOrder := by
    refine isListOf_pick_listedBefore.inOrder.imp_of_mem
      fun hfirst hsecond hbefore ↦ hbefore.resolve_right fun hin ↦ ?_
    obtain ⟨inner, hinner, hfirst⟩ := mem_pick_iff.mp hfirst
    obtain ⟨outer, houter, hsecond⟩ := mem_pick_iff.mp hsecond
    rcases hheading (mem_listing_iff.mp hinner) (mem_listing_iff.mp houter) hin with hnone | hnone
    · exact Option.some_ne_none _ (hfirst.symm.trans hnone)
    · exact Option.some_ne_none _ (hsecond.symm.trans hnone)
  mem_iff := isListOf_pick_listedBefore.mem_iff

end List

/-! ### Numbering symbols -/

/-- The numbers of the definitions follow one another. -/
def Numbers (number : Option Address → Nat) (next : Nat) (definitions : List (Located Definition)) :
    Prop :=
  definitions.map (fun definition ↦ number (some definition.address)) =
    List.range' next definitions.length

/-- Numbers that are given out one after the other are given to one list and then to the next. -/
theorem Numbers.of_append {number : Option Address → Nat} {next : Nat}
    {first second : List (Located Definition)} (hnumbers : Numbers number next (first ++ second)) :
    Numbers number next first ∧ Numbers number (next + first.length) second := by
  unfold Numbers at hnumbers
  rw [List.map_append, List.length_append, ← List.range'_append_1] at hnumbers
  exact List.append_inj hnumbers (by rw [List.length_map, List.length_range'])

/-- The number of a symbol: zero for the module, and from one on for definitions in their order. -/
def numberIn (definitions : List (Located Definition)) (symbol : Option Address) : Nat :=
  (none :: definitions.map fun definition ↦ some definition.address).idxOf symbol

theorem numberIn_none (definitions : List (Located Definition)) : numberIn definitions none = 0 :=
  List.idxOf_cons_self

/-- Definitions at different addresses are numbered one after the other. -/
theorem numbers_numberIn {definitions : List (Located Definition)}
    (hnodup : (definitions.map (·.address)).Nodup) :
    Numbers (numberIn definitions) 1 definitions := by
  have hsymbols : (none :: definitions.map fun definition ↦ some definition.address).Nodup := by
    refine List.nodup_cons.mpr ⟨by simp, ?_⟩
    exact List.pairwise_map.mpr ((List.pairwise_map.mp hnodup).imp fun hne heq ↦
      hne (Option.some.inj heq))
  refine List.ext_getElem (by simp) fun index hindex _ ↦ ?_
  have hplace := hsymbols.idxOf_getElem (index + 1) (by simpa using hindex)
  simpa [numberIn, Nat.add_comm 1] using hplace

/-! ### Walks -/

/-- The second extraction is the first one with definitions and mentions added in their order. -/
structure Adds (number : Option Address → Nat) (before after : Extraction)
    (definitions : List (Located Definition)) (mentions : List (Located Mention)) : Prop where
  declarations : after.declarations =
    before.declarations ++ definitions.map (Located.declaration number)
  calls : after.calls = before.calls ++ mentions.map (Located.call number)

section Walk

variable {Node : Type} {reading : NodeReading Node} {number : Option Address → Nat}
  {before middle after : Extraction}

/-- Between the two extractions what is read of the nodes is added, if the numbers go on. -/
def Records (reading : NodeReading Node) (number : Option Address → Nat)
    (nodes : List (Located Node)) (before after : Extraction) : Prop :=
  Numbers number before.nextTag (pick reading.definition? nodes) →
    Adds number before after (pick reading.definition? nodes) (pick reading.mention? nodes)

namespace Records

/-- Of what is passed over nothing is recorded. -/
theorem passedOver {nodes : List (Located Node)}
    (hdefinitions : ∀ node ∈ nodes, reading.definition? node.address node.item = none)
    (hmentions : ∀ node ∈ nodes, reading.mention? node.address node.item = none)
    (hdeclarations : after.declarations = before.declarations)
    (hcalls : after.calls = before.calls) : Records reading number nodes before after := by
  intro _
  rw [pick_eq_nil hdefinitions, pick_eq_nil hmentions]
  exact ⟨by simpa using hdeclarations, by simpa using hcalls⟩

theorem nil (extraction : Extraction) : Records reading number [] extraction extraction :=
  passedOver (fun _ hnode ↦ nomatch hnode) (fun _ hnode ↦ nomatch hnode) rfl rfl

/-- One walk after another. -/
theorem append {first second : List (Located Node)}
    (hfirst : Records reading number first before middle)
    (hsecond : Records reading number second middle after) :
    Records reading number (first ++ second) before after := by
  intro hnumbers
  rw [pick_append] at hnumbers
  obtain ⟨hnumbers, hrest⟩ := hnumbers.of_append
  have hadds := hfirst hnumbers
  have hnext : middle.nextTag =
      before.nextTag + (pick reading.definition? first).length := by
    rw [Extraction.nextTag, hadds.declarations, List.length_append, List.length_map]
    rfl
  rw [← hnext] at hrest
  have hmore := hsecond hrest
  refine ⟨?_, ?_⟩
  · rw [hmore.declarations, hadds.declarations, pick_append, List.map_append, List.append_assoc]
  · rw [hmore.calls, hadds.calls, pick_append, List.map_append, List.append_assoc]

/-- A node of which nothing is recorded, before what is inside it. -/
theorem skip {node : Located Node} {rest : List (Located Node)}
    (hdefinition : reading.definition? node.address node.item = none)
    (hmention : reading.mention? node.address node.item = none)
    (hrest : Records reading number rest before after) :
    Records reading number (node :: rest) before after := by
  unfold Records
  rwa [pick_cons_of_none hdefinition, pick_cons_of_none hmention]

/-- A node that defines a symbol, before what is inside it. The walk inside may rely on the number
of the symbol. -/
theorem define {node : Located Node} {definition : Definition} {rest : List (Located Node)}
    (hdefinition : reading.definition? node.address node.item = some definition)
    (hmention : reading.mention? node.address node.item = none)
    (hrest : number (some node.address) = before.nextTag → Records reading number rest
      (before.declare (number node.address.definition?) definition.kind definition.name
        definition.signature definition.extent) after) :
    Records reading number (node :: rest) before after := by
  intro hnumbers
  rw [pick_cons_of_some hdefinition] at hnumbers ⊢
  rw [pick_cons_of_none hmention]
  rw [← List.singleton_append] at hnumbers
  obtain ⟨hfirst, hnext⟩ := hnumbers.of_append
  have hnumber : number (some node.address) = before.nextTag := by
    simpa [Numbers] using hfirst
  have hadds := hrest hnumber (by
    rw [Extraction.nextTag, Extraction.declare, List.length_append]
    exact hnext)
  refine ⟨?_, hadds.calls⟩
  rw [hadds.declarations, Extraction.declare, List.append_assoc]
  simp [Located.declaration, hnumber]

/-- A node that may mention a call, before what is inside it. -/
theorem mention {node : Located Node} {callee : String} {line : Int} {rest : List (Located Node)}
    (hdefinition : reading.definition? node.address node.item = none)
    (hmention : reading.mention? node.address node.item =
      if isSimpleCallee callee then some ⟨callee, line⟩ else none)
    (hrest : Records reading number rest
      (before.addCall (number node.address.definition?) callee line) after) :
    Records reading number (node :: rest) before after := by
  intro hnumbers
  rw [pick_cons_of_none hdefinition] at hnumbers ⊢
  have hadds := hrest (by
    rwa [Extraction.nextTag, Extraction.declarations_addCall])
  refine ⟨by rw [hadds.declarations, Extraction.declarations_addCall], ?_⟩
  rw [hadds.calls, Extraction.addCall]
  split at hmention
  · rename_i hsimple
    rw [pick_cons_of_some hmention, if_pos hsimple]
    simp [Located.call]
  · rename_i hsimple
    rw [pick_cons_of_none hmention, if_neg hsimple]

end Records

/-- A walk that records a whole program numbers the symbols by their places. -/
theorem Records.adds_listing [SizeOf Node] [SyntaxNode Node] {program : List Node}
    (hrecords : ∀ number : Option Address → Nat, number none = 0 →
      Records reading number (listing program) before after)
    (hmodule : before.nextTag = 1) :
    Adds (numberIn (pick reading.definition? (listing program))) before after
      (pick reading.definition? (listing program)) (pick reading.mention? (listing program)) := by
  refine hrecords _ (numberIn_none _) ?_
  rw [hmodule]
  refine numbers_numberIn (List.pairwise_map.mpr (pairwise_pick ?_))
  exact List.pairwise_map.mp (nodup_address_listing program)

end Walk

/-! ### Records of programs -/

section Record

variable {Node : Type} [SizeOf Node] [SyntaxNode Node]

/-- After the module of its file, the definitions of a program are declared in the given order, and
its mentions are recorded as calls in source order: all of them, each once and nothing else. The
symbol around each of them is the innermost definition around it, which is declared as well, or else
the module. -/
structure IsRecord (order : Address → Address → Prop) (reading : NodeReading Node)
    (program : List Node) (definitions : List (Located Definition))
    (mentions : List (Located Mention)) (read : Extraction) : Prop where
  definesAll : IsListOf order program reading.definition? definitions
  mentionsAll : IsListOf Address.Before program reading.mention? mentions
  declarations : ∃ root, root.tag = 0 ∧ root.parent = none ∧ root.kind = .module ∧
    read.declarations = root :: definitions.map (Located.declaration (numberIn definitions))
  calls : read.calls = mentions.map (Located.call (numberIn definitions))
  /-- Both are inside definitions that are declared, if they are inside any. -/
  enclosed : ∀ address, address ∈ definitions.map (·.address) ∨ address ∈ mentions.map (·.address) →
    ∀ around, address.definition? = some around → around ∈ definitions.map (·.address)

/-- A program whose bodies belong to definitions has a record, if its definitions and mentions are
listed in order and added to the module of the file. -/
theorem isRecord_pick {order : Address → Address → Prop} {reading : NodeReading Node}
    {program : List Node} {read : Extraction} {name source : String}
    (hdefinitions : IsListOf order program reading.definition?
      (pick reading.definition? (listing program)))
    (hmentions : IsListOf Address.Before program reading.mention?
      (pick reading.mention? (listing program)))
    (hadds : Adds (numberIn (pick reading.definition? (listing program)))
      (.ofModule name source) read (pick reading.definition? (listing program))
      (pick reading.mention? (listing program)))
    (hbody : ∀ {address around : Address} {node outer child : Node} {step : Step},
      reading.definition? address node ≠ none ∨ reading.mention? address node ≠ none →
      step :: around <:+ address → step.part.isBody = true →
      child ∈ SyntaxNode.held outer step.part → reading.definition? around outer ≠ none) :
    IsRecord order reading program (pick reading.definition? (listing program))
      (pick reading.mention? (listing program)) read where
  definesAll := hdefinitions
  mentionsAll := hmentions
  declarations := ⟨_, rfl, rfl, rfl, hadds.declarations⟩
  calls := hadds.calls
  enclosed := by
    intro address hpicked around haround
    have hstands : ∃ node, StandsAt program address node ∧
        (reading.definition? address node ≠ none ∨ reading.mention? address node ≠ none) := by
      rcases hpicked with hpicked | hpicked
      · obtain ⟨item, hitem, rfl⟩ := List.mem_map.mp hpicked
        obtain ⟨node, hnode, hread⟩ := mem_pick_iff.mp hitem
        exact ⟨node, mem_listing_iff.mp hnode, .inl (hread ▸ Option.some_ne_none _)⟩
      · obtain ⟨item, hitem, rfl⟩ := List.mem_map.mp hpicked
        obtain ⟨node, hnode, hread⟩ := mem_pick_iff.mp hitem
        exact ⟨node, mem_listing_iff.mp hnode, .inr (hread ▸ Option.some_ne_none _)⟩
    obtain ⟨node, hnode, hread⟩ := hstands
    obtain ⟨step, outer, child, hstep, hsuffix, houter, hchild⟩ :=
      hnode.exists_of_definition? haround
    obtain ⟨definition, hdefinition⟩ := Option.ne_none_iff_exists'.mp
      (hbody hread hsuffix hstep (List.mem_of_getElem? hchild))
    exact List.mem_map.mpr
      ⟨⟨around, definition⟩, mem_pick_iff.mpr ⟨outer, mem_listing_iff.mpr houter, hdefinition⟩, rfl⟩

end Record

end SymbolGraph
