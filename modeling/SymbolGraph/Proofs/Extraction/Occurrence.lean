import Mathlib.Data.List.Nodup
import SymbolGraph.Extraction

/-!
# Where the nodes of a program stand

A node of a syntax tree holds others in its parts (`SyntaxNode`). Which node of a program is meant
is said by its address, the steps that lead to it from the top (`StandsAt`): equal nodes may stand
at several addresses. Addresses are in source order (`Address.Before`), what is outside before what
is inside and what is beside each other from left to right, and an address tells which body is the
innermost around it (`Address.definition?`).

`listing` lists the nodes of a program as a walk meets them that takes the parts of a heading, such
as parameters, before the node itself and all other parts after it. Every node is listed once
(`nodup_address_listing`, `mem_listing_iff`), and the nodes of no heading are listed in source order
(`pairwise_listing`).
-/

set_option autoImplicit false
set_option relaxedAutoImplicit false

namespace SymbolGraph

/-- The parts in which a node holds others. -/
inductive Part where
  /-- Decorators, and what else no extraction looks at. -/
  | aside
  | typeParameters
  | parameters
  /-- The classes that a class extends. -/
  | bases
  /-- The annotation of what a function returns. -/
  | returns
  /-- The call of a declaration that loads a module. -/
  | loading
  /-- A part of no other kind. -/
  | piece
  /-- The inside of a function or a class without a name. -/
  | nameless
  | functionBody
  | classBody
  deriving DecidableEq, Repr

namespace Part

/-- The parts that come before the body of a definition. -/
def heading : List Part :=
  [.aside, .typeParameters, .parameters, .bases, .returns]

/-- All other parts. -/
def interior : List Part :=
  [.loading, .piece, .nameless, .functionBody, .classBody]

/-- The inside of a definition. -/
def isBody : Part → Bool
  | .functionBody | .classBody => true
  | _ => false

/-- The place of a part among all parts. -/
def rank (part : Part) : Nat :=
  (heading ++ interior).idxOf part

theorem mem_heading_or_mem_interior (part : Part) : part ∈ heading ∨ part ∈ interior := by
  cases part <;> decide

theorem eq_of_isBody {part : Part} (hbody : part.isBody = true) :
    part = .functionBody ∨ part = .classBody := by
  revert hbody
  cases part <;> decide

theorem isBody_of_mem_heading {part : Part} (hpart : part ∈ heading) : part.isBody = false := by
  revert hpart
  cases part <;> decide

theorem pairwise_rank_lt : (heading ++ interior).Pairwise fun first second ↦
    first.rank < second.rank := by
  decide

end Part

/-! ### Addresses -/

/-- From a node to one that it holds. -/
structure Step where
  part : Part
  /-- The place in the part. -/
  index : Nat
  deriving DecidableEq, Repr

/-- The first step leads to an earlier part, or to an earlier place in the same part. -/
def Step.Before (first second : Step) : Prop :=
  first.part.rank < second.part.rank ∨ first.part = second.part ∧ first.index < second.index

theorem Step.Before.ne {first second : Step} (hbefore : first.Before second) : first ≠ second := by
  rintro rfl
  rcases hbefore with hrank | ⟨-, hindex⟩
  · exact Nat.lt_irrefl _ hrank
  · exact Nat.lt_irrefl _ hindex

/-- The steps that lead to a node from the top of a program, the last one first. -/
abbrev Address := List Step

namespace Address

/-- At some node around both, the way to the first one leads to an earlier place. -/
def Precedes (first second : Address) : Prop :=
  ∃ (around : Address) (firstStep secondStep : Step), firstStep.Before secondStep ∧
    firstStep :: around <:+ first ∧ secondStep :: around <:+ second

/-- In source order: the second one is inside the first one, or right of it. -/
def Before (first second : Address) : Prop :=
  (first <:+ second ∧ first ≠ second) ∨ first.Precedes second

/-- The first address is in the heading of the node at the second one. -/
def InHeadingOf (first second : Address) : Prop :=
  ∃ step : Step, step.part ∈ Part.heading ∧ step :: second <:+ first

/-- The address of the innermost definition whose body the address is in. -/
def definition? : Address → Option Address
  | [] => none
  | step :: around => if step.part.isBody then some around else definition? around

/-- That definition is a class. -/
def isInClass : Address → Bool
  | [] => false
  | step :: around =>
    match step.part with
    | .functionBody => false
    | .classBody => true
    | _ => isInClass around

/-- Outside of bodies the definition around a node is around what it holds. -/
theorem definition?_cons {step : Step} (hbody : step.part.isBody = false) (around : Address) :
    definition? (step :: around) = around.definition? := by
  rw [definition?, hbody]
  rfl

theorem isInClass_cons {step : Step} (hbody : step.part.isBody = false) (around : Address) :
    isInClass (step :: around) = around.isInClass := by
  obtain ⟨part, index⟩ := step
  cases part with
  | functionBody => cases hbody
  | classBody => cases hbody
  | _ => rfl

theorem Precedes.ne {first second : Address} (hprecedes : first.Precedes second) :
    first ≠ second := by
  rintro rfl
  obtain ⟨around, firstStep, secondStep, hbefore, hfirst, hsecond⟩ := hprecedes
  have hsuffix : firstStep :: around <:+ secondStep :: around :=
    List.suffix_of_suffix_length_le hfirst hsecond (by simp)
  exact hbefore.ne (List.cons_eq_cons.mp (hsuffix.eq_of_length (by simp))).1

theorem Before.ne {first second : Address} (hbefore : first.Before second) : first ≠ second := by
  rcases hbefore with ⟨-, hne⟩ | hprecedes
  · exact hne
  · exact hprecedes.ne

theorem InHeadingOf.ne {first second : Address} (hheading : first.InHeadingOf second) :
    first ≠ second := by
  rintro rfl
  obtain ⟨step, -, hsuffix⟩ := hheading
  exact absurd hsuffix.length_le (by simp)

end Address

/-! ### Nodes -/

/-- Nodes that hold smaller ones in their parts. -/
class SyntaxNode (Node : Type) [SizeOf Node] where
  /-- What a node holds in a part. -/
  held : Node → Part → List Node
  sizeOf_lt : ∀ {node child : Node} {part : Part}, child ∈ held node part →
    sizeOf child < sizeOf node

open SyntaxNode (held)

/-- Something at an address. -/
structure Located (α : Type) where
  address : Address
  item : α

/-- Nodes that stand in a part from some place on, with the steps to them. -/
def stepsTo {Node : Type} (part : Part) (index : Nat) (nodes : List Node) : List (Step × Node) :=
  (nodes.zipIdx index).map fun (node, index) ↦ (⟨part, index⟩, node)

@[simp] theorem stepsTo_nil {Node : Type} (part : Part) (index : Nat) :
    stepsTo part index ([] : List Node) = [] :=
  rfl

theorem stepsTo_cons {Node : Type} (part : Part) (index : Nat) (node : Node) (rest : List Node) :
    stepsTo part index (node :: rest) = (⟨part, index⟩, node) :: stepsTo part (index + 1) rest :=
  rfl

theorem stepsTo_append {Node : Type} (part : Part) (index : Nat) (first second : List Node) :
    stepsTo part index (first ++ second) =
      stepsTo part index first ++ stepsTo part (index + first.length) second := by
  rw [stepsTo, List.zipIdx_append, List.map_append]
  rfl

theorem mem_stepsTo_iff {Node : Type} {part : Part} {nodes : List Node} {step : Step}
    {node : Node} :
    (step, node) ∈ stepsTo part 0 nodes ↔ step.part = part ∧ nodes[step.index]? = some node := by
  rw [stepsTo, List.mem_map]
  constructor
  · rintro ⟨⟨node, index⟩, hplace, heq⟩
    obtain ⟨rfl, rfl⟩ := Prod.mk.inj heq
    exact ⟨rfl, List.mem_zipIdx_iff_getElem?.mp hplace⟩
  · rintro ⟨rfl, hnode⟩
    exact ⟨(node, step.index), List.mem_zipIdx_iff_getElem?.mpr hnode, rfl⟩

/-- The steps to a part are in source order. -/
theorem pairwise_stepsTo {Node : Type} (part : Part) (index : Nat) (nodes : List Node) :
    (stepsTo part index nodes).Pairwise fun first second ↦ first.1.Before second.1 := by
  have hindex : ((nodes.zipIdx index).map Prod.snd).Pairwise (· < ·) := by
    rw [List.zipIdx_map_snd]
    exact List.pairwise_lt_range'
  exact List.pairwise_map.mpr
    ((List.pairwise_map.mp hindex).imp fun hlt ↦ Or.inr ⟨rfl, hlt⟩)

section Listing

variable {Node : Type} [SizeOf Node] [SyntaxNode Node]

/-- The node stands at the address in the program. -/
inductive StandsAt (program : List Node) : Address → Node → Prop
  | top {index : Nat} {node : Node} (hnode : program[index]? = some node) :
      StandsAt program [⟨.piece, index⟩] node
  | inside {address : Address} {outer node : Node} (houter : StandsAt program address outer)
      {part : Part} {index : Nat} (hnode : (held outer part)[index]? = some node) :
      StandsAt program (⟨part, index⟩ :: address) node

namespace StandsAt

variable {program : List Node} {address first second : Address} {node outer : Node}

theorem ne_nil (hnode : StandsAt program address node) : address ≠ [] := by
  cases hnode with
  | top => exact List.cons_ne_nil _ _
  | inside => exact List.cons_ne_nil _ _

/-- One node stands at an address. -/
theorem unique (hfirst : StandsAt program address node) {other : Node}
    (hsecond : StandsAt program address other) : node = other := by
  induction hfirst generalizing other with
  | top hnode =>
    cases hsecond with
    | top hother => exact Option.some.inj (hnode.symm.trans hother)
    | inside houter => exact absurd rfl houter.ne_nil
  | inside houter hnode ih =>
    cases hsecond with
    | top => exact absurd rfl houter.ne_nil
    | inside houter' hother =>
      obtain rfl := ih houter'
      exact Option.some.inj (hnode.symm.trans hother)

/-- On the way to a node inside another one there is a node that the outer one holds. -/
theorem exists_held (hnode : StandsAt program first node) {step : Step}
    (hsuffix : step :: second <:+ first) (houter : StandsAt program second outer) :
    ∃ child, (held outer step.part)[step.index]? = some child ∧
      StandsAt program (step :: second) child := by
  induction hnode with
  | top =>
    have hlength := hsuffix.length_le
    have hempty : second = [] := List.length_eq_zero_iff.mp (by simpa using hlength)
    exact absurd hempty houter.ne_nil
  | inside hmiddle hheld ih =>
    rcases List.suffix_cons_iff.mp hsuffix with heq | hsuffix
    · obtain ⟨rfl, rfl⟩ := List.cons_eq_cons.mp heq
      obtain rfl := hmiddle.unique houter
      exact ⟨_, hheld, .inside hmiddle hheld⟩
    · exact ih hsuffix

/-- The innermost definition around a node stands in the program, and holds the node in its body. -/
theorem exists_of_definition? (hnode : StandsAt program address node) {around : Address}
    (haround : address.definition? = some around) : ∃ (step : Step) (outer child : Node),
      step.part.isBody = true ∧ step :: around <:+ address ∧ StandsAt program around outer ∧
        (held outer step.part)[step.index]? = some child := by
  induction hnode with
  | top => cases haround
  | @inside address outer node hmiddle part index hheld ih =>
    rw [Address.definition?] at haround
    split at haround
    · rename_i hbody
      obtain rfl := Option.some.inj haround
      exact ⟨⟨part, index⟩, outer, node, hbody, List.suffix_rfl, hmiddle, hheld⟩
    · obtain ⟨step, outer, child, hbody, hsuffix, houter, hchild⟩ := ih haround
      exact ⟨step, outer, child, hbody, hsuffix.trans (List.suffix_cons _ _), houter, hchild⟩

/-- What nodes hand down to all that they hold, a node has from one that is around it. -/
theorem of_suffix {property : Node → Prop}
    (hheld : ∀ outer part, property outer → ∀ child ∈ held outer part, property child)
    (hnode : StandsAt program first node) (hsuffix : second <:+ first)
    (houter : StandsAt program second outer) (hproperty : property outer) : property node := by
  induction hnode with
  | @top index node hnode =>
    rcases List.suffix_cons_iff.mp hsuffix with rfl | hsuffix
    · exact houter.unique (.top hnode) ▸ hproperty
    · exact absurd (List.suffix_nil.mp hsuffix) houter.ne_nil
  | inside hmiddle hnode ih =>
    rcases List.suffix_cons_iff.mp hsuffix with rfl | hsuffix
    · exact houter.unique (.inside hmiddle hnode) ▸ hproperty
    · exact hheld _ _ (ih hsuffix) _ (List.mem_of_getElem? hnode)

/-- What the nodes at the top have and hand down, every node has. -/
theorem of_top {property : Node → Prop} (htop : ∀ node ∈ program, property node)
    (hheld : ∀ outer part, property outer → ∀ child ∈ held outer part, property child)
    (hnode : StandsAt program address node) : property node := by
  induction hnode with
  | top hnode => exact htop _ (List.mem_of_getElem? hnode)
  | inside _ hnode ih => exact hheld _ _ ih _ (List.mem_of_getElem? hnode)

end StandsAt

/-- What holds of a node if it holds of all that the node holds, holds of all nodes. -/
theorem SyntaxNode.induction {motive : Node → Prop}
    (hstep : ∀ node, (∀ part, ∀ child ∈ held node part, motive child) → motive node)
    (node : Node) : motive node :=
  hstep node fun _ child _ ↦ SyntaxNode.induction hstep child
termination_by sizeOf node
decreasing_by
  rename_i hchild
  exact sizeOf_lt hchild

/-- The nodes in the given parts of a node, with the steps to them. -/
def children (parts : List Part) (node : Node) : List (Step × Node) :=
  parts.flatMap fun part ↦ stepsTo part 0 (held node part)

theorem mem_children_iff {parts : List Part} {node child : Node} {step : Step} :
    (step, child) ∈ children parts node ↔
      step.part ∈ parts ∧ (held node step.part)[step.index]? = some child := by
  rw [children, List.mem_flatMap]
  constructor
  · rintro ⟨part, hpart, hchild⟩
    obtain ⟨rfl, hchild⟩ := mem_stepsTo_iff.mp hchild
    exact ⟨hpart, hchild⟩
  · rintro ⟨hpart, hchild⟩
    exact ⟨step.part, hpart, mem_stepsTo_iff.mpr ⟨rfl, hchild⟩⟩

/-- The steps from a node are in source order. -/
theorem pairwise_children (node : Node) :
    (children (Part.heading ++ Part.interior) node).Pairwise
      fun first second ↦ first.1.Before second.1 := by
  refine List.pairwise_flatMap.mpr ⟨fun part _ ↦ pairwise_stepsTo part 0 _, ?_⟩
  refine Part.pairwise_rank_lt.imp fun hrank first hfirst second hsecond ↦ ?_
  obtain ⟨hpart, -⟩ := mem_stepsTo_iff.mp hfirst
  obtain ⟨hpart', -⟩ := mem_stepsTo_iff.mp hsecond
  subst hpart hpart'
  exact Or.inl hrank

/-! ### Listing all nodes -/

/-- A node and all that is in it: first the parts of its heading, then the node, then the others. -/
def occurrences (address : Address) (node : Node) : List (Located Node) :=
  ((children Part.heading node).attach.flatMap fun child ↦
    occurrences (child.1.1 :: address) child.1.2) ++ ⟨address, node⟩ ::
  ((children Part.interior node).attach.flatMap fun child ↦
    occurrences (child.1.1 :: address) child.1.2)
termination_by sizeOf node
decreasing_by
  · exact SyntaxNode.sizeOf_lt (List.mem_of_getElem? (mem_children_iff.mp child.2).2)
  · exact SyntaxNode.sizeOf_lt (List.mem_of_getElem? (mem_children_iff.mp child.2).2)

/-- All that is in the nodes to which steps lead from an address. -/
def occurrencesIn (address : Address) (steps : List (Step × Node)) : List (Located Node) :=
  steps.flatMap fun child ↦ occurrences (child.1 :: address) child.2

/-- The nodes of a program. -/
def listing (program : List Node) : List (Located Node) :=
  occurrencesIn [] (stepsTo .piece 0 program)

theorem occurrences_eq (address : Address) (node : Node) : occurrences address node =
    occurrencesIn address (children Part.heading node) ++ ⟨address, node⟩ ::
      occurrencesIn address (children Part.interior node) := by
  have hattach : ∀ steps : List (Step × Node), (steps.attach.flatMap fun child ↦
      occurrences (child.1.1 :: address) child.1.2) = occurrencesIn address steps := by
    intro steps
    calc (steps.attach.flatMap fun child ↦ occurrences (child.1.1 :: address) child.1.2)
        = occurrencesIn address (steps.attach.map Subtype.val) := by
          rw [occurrencesIn, List.flatMap_map]
      _ = occurrencesIn address steps := by rw [List.attach_map_subtype_val]
  rw [occurrences, hattach, hattach]

@[simp] theorem occurrencesIn_nil (address : Address) :
    occurrencesIn address ([] : List (Step × Node)) = [] :=
  rfl

theorem occurrencesIn_cons (address : Address) (step : Step) (node : Node)
    (rest : List (Step × Node)) : occurrencesIn address ((step, node) :: rest) =
      occurrences (step :: address) node ++ occurrencesIn address rest :=
  rfl

@[simp] theorem occurrencesIn_append (address : Address) (first second : List (Step × Node)) :
    occurrencesIn address (first ++ second) =
      occurrencesIn address first ++ occurrencesIn address second :=
  List.flatMap_append

theorem mem_occurrencesIn_iff {address : Address} {steps : List (Step × Node)}
    {occurrence : Located Node} : occurrence ∈ occurrencesIn address steps ↔
      ∃ child ∈ steps, occurrence ∈ occurrences (child.1 :: address) child.2 :=
  List.mem_flatMap

/-- What occurs in a node is the node, or it occurs in a node that is held. -/
theorem mem_occurrences_iff {address : Address} {node : Node} {occurrence : Located Node} :
    occurrence ∈ occurrences address node ↔ occurrence = ⟨address, node⟩ ∨
      ∃ (step : Step) (child : Node), (held node step.part)[step.index]? = some child ∧
        occurrence ∈ occurrences (step :: address) child := by
  have hchildren : occurrence ∈ occurrencesIn address (children Part.heading node) ∨
      occurrence ∈ occurrencesIn address (children Part.interior node) ↔
      ∃ (step : Step) (child : Node), (held node step.part)[step.index]? = some child ∧
        occurrence ∈ occurrences (step :: address) child := by
    simp only [mem_occurrencesIn_iff, Prod.exists, mem_children_iff]
    constructor
    · rintro (⟨step, child, ⟨-, hchild⟩, hmem⟩ | ⟨step, child, ⟨-, hchild⟩, hmem⟩)
      · exact ⟨step, child, hchild, hmem⟩
      · exact ⟨step, child, hchild, hmem⟩
    · rintro ⟨step, child, hchild, hmem⟩
      exact (Part.mem_heading_or_mem_interior step.part).imp
        (fun hpart ↦ ⟨step, child, ⟨hpart, hchild⟩, hmem⟩)
        (fun hpart ↦ ⟨step, child, ⟨hpart, hchild⟩, hmem⟩)
  rw [occurrences_eq, List.mem_append, List.mem_cons, ← hchildren]
  exact or_left_comm

theorem mem_occurrences_self (address : Address) (node : Node) :
    ⟨address, node⟩ ∈ occurrences address node :=
  mem_occurrences_iff.mpr (Or.inl rfl)

/-- What nodes hand down to all that they hold, everything that occurs in a node has. -/
theorem forall_mem_occurrences {property : Node → Prop}
    (hheld : ∀ outer part, property outer → ∀ child ∈ held outer part, property child)
    {node : Node} {occurrence : Located Node} : ∀ {address : Address}, property node →
      occurrence ∈ occurrences address node → property occurrence.item := by
  induction node using SyntaxNode.induction with
  | hstep node ih =>
    intro address hnode hmem
    rcases mem_occurrences_iff.mp hmem with rfl | ⟨step, child, hchild, hmem⟩
    · exact hnode
    · have hmem' := List.mem_of_getElem? hchild
      exact ih step.part child hmem' (hheld node step.part hnode child hmem') hmem

/-- What occurs in a node stands inside it. -/
theorem suffix_of_mem_occurrences {node : Node} {occurrence : Located Node} :
    ∀ {address : Address}, occurrence ∈ occurrences address node →
      address <:+ occurrence.address := by
  induction node using SyntaxNode.induction with
  | hstep node ih =>
    intro address hmem
    rcases mem_occurrences_iff.mp hmem with rfl | ⟨step, child, hchild, hmem⟩
    · exact List.suffix_rfl
    · exact (List.suffix_cons step address).trans
        (ih step.part child (List.mem_of_getElem? hchild) hmem)

/-- What a node holds that occurs in another one occurs in that one as well. -/
theorem mem_occurrences_of_held {node outer child : Node} {inner : Address} {step : Step}
    (hchild : (held outer step.part)[step.index]? = some child) :
    ∀ {address : Address}, ⟨inner, outer⟩ ∈ occurrences address node →
      ⟨step :: inner, child⟩ ∈ occurrences address node := by
  induction node using SyntaxNode.induction with
  | hstep node ih =>
    intro address hmem
    refine mem_occurrences_iff.mpr (Or.inr ?_)
    rcases mem_occurrences_iff.mp hmem with heq | ⟨first, middle, hmiddle, hmem⟩
    · cases heq
      exact ⟨step, child, hchild, mem_occurrences_self _ _⟩
    · exact ⟨first, middle, hmiddle, ih first.part middle (List.mem_of_getElem? hmiddle) hmem⟩

/-- What occurs in a node of a program stands in the program. -/
theorem StandsAt.of_mem_occurrences {program : List Node} {node : Node}
    {occurrence : Located Node} : ∀ {address : Address}, StandsAt program address node →
      occurrence ∈ occurrences address node →
      StandsAt program occurrence.address occurrence.item := by
  induction node using SyntaxNode.induction with
  | hstep node ih =>
    intro address hnode hmem
    rcases mem_occurrences_iff.mp hmem with rfl | ⟨step, child, hchild, hmem⟩
    · exact hnode
    · exact ih step.part child (List.mem_of_getElem? hchild) (.inside hnode hchild) hmem

/-- The listing has the nodes that stand in the program, and no others. -/
theorem mem_listing_iff {program : List Node} {occurrence : Located Node} :
    occurrence ∈ listing program ↔ StandsAt program occurrence.address occurrence.item := by
  obtain ⟨address, node⟩ := occurrence
  simp only [listing, mem_occurrencesIn_iff, Prod.exists, mem_stepsTo_iff]
  constructor
  · rintro ⟨⟨part, index⟩, top, ⟨rfl, htop⟩, hmem⟩
    exact StandsAt.of_mem_occurrences (.top htop) hmem
  · intro hstands
    induction hstands with
    | @top index node htop =>
      exact ⟨⟨.piece, index⟩, node, ⟨rfl, htop⟩, mem_occurrences_self _ _⟩
    | @inside address outer node _ part index hnode ih =>
      obtain ⟨step, top, htop, hmem⟩ := ih
      have hheld : (held outer (Step.mk part index).part)[index]? = some node := hnode
      exact ⟨step, top, htop, mem_occurrences_of_held hheld hmem⟩

/-! ### The order of the listing -/

/-- The first address is in the heading of the node at the second one, or before it. -/
def Address.ListedBefore (first second : Address) : Prop :=
  first.Before second ∨ first.InHeadingOf second

theorem pairwise_occurrencesIn {address : Address} {steps : List (Step × Node)}
    (hsteps : steps.Pairwise fun first second ↦ first.1.Before second.1)
    (hinner : ∀ child ∈ steps, (occurrences (child.1 :: address) child.2).Pairwise
      fun first second ↦ first.address.ListedBefore second.address) :
    (occurrencesIn address steps).Pairwise
      fun first second ↦ first.address.ListedBefore second.address := by
  refine List.pairwise_flatMap.mpr ⟨hinner, hsteps.imp ?_⟩
  intro first second hbefore occurrence hfirst later hsecond
  exact Or.inl (Or.inr ⟨address, first.1, second.1, hbefore, suffix_of_mem_occurrences hfirst,
    suffix_of_mem_occurrences hsecond⟩)

theorem pairwise_occurrences (node : Node) : ∀ address : Address,
    (occurrences address node).Pairwise
      fun first second ↦ first.address.ListedBefore second.address := by
  induction node using SyntaxNode.induction with
  | hstep node ih =>
    intro address
    have hparts := pairwise_occurrencesIn (pairwise_children node) fun child hchild ↦
      ih _ _ (List.mem_of_getElem? (mem_children_iff.mp hchild).2) (child.1 :: address)
    rw [children, List.flatMap_append, occurrencesIn_append, List.pairwise_append] at hparts
    obtain ⟨hheading, hinterior, hacross⟩ := hparts
    rw [occurrences_eq, List.pairwise_append, List.pairwise_cons]
    refine ⟨hheading, ⟨fun inner hinner ↦ ?_, hinterior⟩, fun outer houter inner hinner ↦ ?_⟩
    · obtain ⟨child, -, hmem⟩ := mem_occurrencesIn_iff.mp hinner
      have hsuffix := suffix_of_mem_occurrences hmem
      refine Or.inl (Or.inl ⟨(List.suffix_cons _ _).trans hsuffix, fun heq ↦ ?_⟩)
      exact absurd hsuffix.length_le (by simp [← heq])
    · rcases List.mem_cons.mp hinner with rfl | hinner
      · obtain ⟨child, hchild, hmem⟩ := mem_occurrencesIn_iff.mp houter
        exact Or.inr ⟨child.1, (mem_children_iff.mp hchild).1, suffix_of_mem_occurrences hmem⟩
      · exact hacross outer houter inner hinner

/-- Nodes are listed in source order, but for the headings. -/
theorem pairwise_listing (program : List Node) : (listing program).Pairwise
    fun first second ↦ first.address.ListedBefore second.address :=
  pairwise_occurrencesIn (pairwise_stepsTo _ _ _) fun _ _ ↦ pairwise_occurrences _ _

/-- No two nodes of the listing stand at the same address. -/
theorem nodup_address_listing (program : List Node) :
    ((listing program).map (·.address)).Nodup := by
  refine List.pairwise_map.mpr ((pairwise_listing program).imp fun hbefore ↦ ?_)
  rcases hbefore with hbefore | hheading
  · exact hbefore.ne
  · exact hheading.ne

end Listing

end SymbolGraph
