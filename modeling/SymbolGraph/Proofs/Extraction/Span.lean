import SymbolGraph.Proofs.Extraction.Record
import SymbolGraph.Proofs.Extraction.WellFormed
import SymbolGraph.Proofs.Text.Bytes
import SymbolGraph.Proofs.Text.Lines

/-!
# Spans of declarations

The extent of a part of the source begins and stops behind prefixes of the source, and its rows
count the line feeds in them (`Extent.IsOf`). So what lies in another part by its bytes lies in it
by its lines as well (`Extent.IsOf.isWithin_span`), and in the module, whose last line is that of
the source (`Extent.IsOf.isWithin_module`).

A declaration belongs to the innermost definition in whose body it is, which may be far above it in
the tree. When extents are handed down in the tree, each of them in the one around it
(`HandsDown`), the spans in a record of the tree nest (`IsRecord.spansNest`).
-/

set_option autoImplicit false
set_option relaxedAutoImplicit false

namespace SymbolGraph

/-! ### Extents -/

/-- The place behind a text. -/
def Text.Place.behind (before : List Char) : Text.Place :=
  ⟨Text.byteSize before, before.count '\n'⟩

namespace Extent

/-- The extent is that of a part of the source which does not end with a line feed. -/
def IsOf (source : String) (extent : Extent) : Prop :=
  ∃ before through, before <+: through ∧ through <+: source.toList ∧
    extent.start = .behind before ∧ extent.stop = .behind through ∧ through.getLast? ≠ some '\n'

instance {source : String} {extent : Extent} : Decidable (extent.IsOf source) :=
  decidable_of_iff (∃ through ∈ Text.before? source.toList extent.stop.byte,
      ∃ before ∈ Text.before? through extent.start.byte, extent.start = .behind before ∧
        extent.stop = .behind through ∧ through.getLast? ≠ some '\n') <| by
    simp only [Option.mem_def, Text.before?_eq_some_iff]
    constructor
    · rintro ⟨through, ⟨hthrough, -⟩, before, ⟨hbefore, -⟩, hextent⟩
      exact ⟨before, through, hbefore, hthrough, hextent⟩
    · rintro ⟨before, through, hbefore, hthrough, hextent⟩
      refine ⟨through, ⟨hthrough, ?_⟩, before, ⟨hbefore, ?_⟩, hextent⟩
      · exact congrArg Text.Place.byte hextent.2.1.symm
      · exact congrArg Text.Place.byte hextent.1.symm

/-- By its bytes an extent lies in another one. -/
structure IsWithin (inner outer : Extent) : Prop where
  start : outer.start.byte ≤ inner.start.byte
  stop : inner.stop.byte ≤ outer.stop.byte

instance {inner outer : Extent} : Decidable (inner.IsWithin outer) :=
  decidable_of_iff
    (outer.start.byte ≤ inner.start.byte ∧ inner.stop.byte ≤ outer.stop.byte)
    ⟨fun ⟨hstart, hstop⟩ ↦ ⟨hstart, hstop⟩, fun hwithin ↦ ⟨hwithin.start, hwithin.stop⟩⟩

/-- The extent is that of a part of the source, in the extent around it. -/
def isPart (extent : Extent) (source : String) (around : Extent) : Bool :=
  decide (extent.IsOf source ∧ extent.IsWithin around)

/-- The extent of a whole source. -/
def ofSource (source : String) : Extent :=
  ⟨.origin, .behind source.toList⟩

theorem IsWithin.refl (extent : Extent) : extent.IsWithin extent :=
  ⟨Nat.le_refl _, Nat.le_refl _⟩

theorem IsWithin.trans {inner middle outer : Extent} (hinner : inner.IsWithin middle)
    (houter : middle.IsWithin outer) : inner.IsWithin outer :=
  ⟨houter.start.trans hinner.start, hinner.stop.trans houter.stop⟩

end Extent

/-- By its lines and by its bytes a span lies in another one. -/
structure Span.IsWithin (inner outer : Span) : Prop where
  startLine : outer.startLine ≤ inner.startLine
  endLine : inner.endLine ≤ outer.endLine
  startByte : outer.startByte ≤ inner.startByte
  endByte : inner.endByte ≤ outer.endByte

/-- The span of the module of a file. -/
def Span.ofSource (source : String) : Span :=
  ⟨1, Text.lineCount source.toList, 0, source.utf8ByteSize⟩

/-- The lines and the bytes of a span are some of the source, in their order. -/
structure Span.IsOf (source : String) (span : Span) : Prop where
  one_le_startLine : 1 ≤ span.startLine
  startLine_le_endLine : span.startLine ≤ span.endLine
  zero_le_startByte : 0 ≤ span.startByte
  startByte_le_endByte : span.startByte ≤ span.endByte
  endByte_le : span.endByte ≤ source.utf8ByteSize

theorem Span.isOf_ofSource (source : String) : (Span.ofSource source).IsOf source where
  one_le_startLine := Int.le_refl 1
  startLine_le_endLine := Int.ofNat_le.mpr (Nat.le_max_left 1 _)
  zero_le_startByte := Int.le_refl 0
  startByte_le_endByte := Int.natCast_nonneg _
  endByte_le := Int.le_refl _

section Extents

open Text

variable {source : String} {extent inner outer : Extent}

/-- A place that is further by its bytes is further by its line feeds. -/
theorem row_behind_le {first second text : List Char} (hfirst : first <+: text)
    (hsecond : second <+: text) (hle : (Place.behind first).byte ≤ (Place.behind second).byte) :
    (Place.behind first).row ≤ (Place.behind second).row :=
  (prefix_of_byteSize_le hfirst hsecond hle).sublist.count_le '\n'

theorem Extent.IsOf.isOf_span (hextent : extent.IsOf source) : extent.span.IsOf source := by
  obtain ⟨before, through, hbefore, hthrough, hstart, hstop, -⟩ := hextent
  have hbytes : extent.start.byte ≤ extent.stop.byte := by
    rw [hstart, hstop]
    exact byteSize_prefix_le hbefore
  have hrows : extent.start.row ≤ extent.stop.row := by
    rw [hstart, hstop]
    exact row_behind_le (hbefore.trans hthrough) hthrough (byteSize_prefix_le hbefore)
  have hend : extent.stop.byte ≤ source.utf8ByteSize := by
    rw [hstop, ← byteSize_toList]
    exact byteSize_prefix_le hthrough
  constructor
  · exact Int.le_add_of_nonneg_left (Int.natCast_nonneg _)
  · exact Int.add_le_add_right (Int.ofNat_le.mpr hrows) 1
  · exact Int.natCast_nonneg _
  · exact Int.ofNat_le.mpr hbytes
  · exact Int.ofNat_le.mpr hend

/-- Parts of a source that lie in one another by their bytes do so by their lines. -/
theorem Extent.IsOf.isWithin_span (hinner : inner.IsOf source) (houter : outer.IsOf source)
    (hwithin : inner.IsWithin outer) : inner.span.IsWithin outer.span := by
  obtain ⟨before, through, hbefore, hthrough, hstart, hstop, -⟩ := hinner
  obtain ⟨before', through', hbefore', hthrough', hstart', hstop', -⟩ := houter
  have hfirst : outer.start.row ≤ inner.start.row := by
    have hle := hwithin.start
    rw [hstart, hstart'] at hle ⊢
    exact row_behind_le (hbefore'.trans hthrough') (hbefore.trans hthrough) hle
  have hlast : inner.stop.row ≤ outer.stop.row := by
    have hle := hwithin.stop
    rw [hstop, hstop'] at hle ⊢
    exact row_behind_le hthrough hthrough' hle
  constructor
  · exact Int.add_le_add_right (Int.ofNat_le.mpr hfirst) 1
  · exact Int.add_le_add_right (Int.ofNat_le.mpr hlast) 1
  · exact Int.ofNat_le.mpr hwithin.start
  · exact Int.ofNat_le.mpr hwithin.stop

/-- A part of the source lies in the module, whose last line is counted otherwise: the part does not
end with the line feed that ends this line. -/
theorem Extent.IsOf.isWithin_module (hextent : extent.IsOf source) :
    extent.span.IsWithin (.ofSource source) := by
  have hspan := hextent.isOf_span
  refine ⟨hspan.one_le_startLine, ?_, hspan.zero_le_startByte, hspan.endByte_le⟩
  obtain ⟨before, through, -, ⟨rest, hsource⟩, -, hstop, hlast⟩ := hextent
  have hline : through.count '\n' < lineCount source.toList := by
    rw [← hsource]
    exact count_lt_lineCount hlast rest
  rw [Extent.span, hstop]
  exact Int.ofNat_le.mpr hline

end Extents

/-! ### Trees -/

section Trees

variable {Node : Type} [SizeOf Node] [SyntaxNode Node]

/-- Nodes hand their extents down: what a node holds is in an extent within that of the node, or
within the one that the node is in when it has none of its own. An extent is that of a part of the
source, and lies in the one that its node is in. -/
structure HandsDown (reading : NodeReading Node) (source : String)
    (extent? : Node → Option Extent) (isIn : Extent → Node → Prop) : Prop where
  held : ∀ {around : Extent} {outer : Node}, isIn around outer → ∀ part,
    ∀ child ∈ SyntaxNode.held outer part, ∃ inner : Extent,
      inner.IsWithin ((extent? outer).getD around) ∧ isIn inner child
  isPart : ∀ {around extent : Extent} {node : Node}, isIn around node → extent? node = some extent →
    extent.IsOf source ∧ extent.IsWithin around
  definition : ∀ {address : Address} {node : Node} {definition : Definition},
    reading.definition? address node = some definition → extent? node = some definition.extent

variable {reading : NodeReading Node} {source : String} {extent? : Node → Option Extent}
  {isIn : Extent → Node → Prop} {program : List Node} {around : Extent}

/-- What lies in an extent holds what lies in it. -/
theorem HandsDown.exists_isIn (hdown : HandsDown reading source extent? isIn) (outer : Node)
    (part : Part) (houter : ∃ inner : Extent, inner.IsWithin around ∧ isIn inner outer) :
    ∀ child ∈ SyntaxNode.held outer part, ∃ inner : Extent,
      inner.IsWithin around ∧ isIn inner child := by
  obtain ⟨middle, hmiddle, hisIn⟩ := houter
  intro child hchild
  obtain ⟨inner, hinner, hchildIn⟩ := hdown.held hisIn part child hchild
  refine ⟨inner, hinner.trans ?_, hchildIn⟩
  cases hextent : extent? outer with
  | none => exact hmiddle
  | some extent => exact (hdown.isPart hisIn hextent).2.trans hmiddle

namespace IsRecord

variable {order : Address → Address → Prop} {definitions : List (Located Definition)}
  {mentions : List (Located Mention)} {read : Extraction}
  (hrecord : IsRecord order reading program definitions mentions read)
  (hdown : HandsDown reading source extent? isIn) (hprogram : ∀ node ∈ program, isIn around node)
include hrecord hdown hprogram

/-- The node of a definition is in some extent. -/
theorem exists_isIn_of_mem {definition : Located Definition} (hmem : definition ∈ definitions) :
    ∃ (node : Node) (outer : Extent), StandsAt program definition.address node ∧
      reading.definition? definition.address node = some definition.item ∧ isIn outer node := by
  obtain ⟨node, hnode, hdefinition⟩ := (hrecord.definesAll.mem_iff definition).mp hmem
  obtain ⟨outer, -, houter⟩ := hnode.of_top
    (fun node hnode ↦ ⟨around, .refl around, hprogram node hnode⟩)
    (fun outer part ↦ hdown.exists_isIn outer part)
  exact ⟨node, outer, hnode, hdefinition, houter⟩

theorem isOf_of_mem {definition : Located Definition} (hmem : definition ∈ definitions) :
    definition.item.extent.IsOf source := by
  obtain ⟨node, outer, -, hdefinition, houter⟩ := hrecord.exists_isIn_of_mem hdown hprogram hmem
  exact (hdown.isPart houter (hdown.definition hdefinition)).1

/-- However far above a definition the innermost one around it stands in the tree, its extent is
around that of the definition. -/
theorem exists_isWithin {definition : Located Definition} (hmem : definition ∈ definitions)
    {enclosing : Address} (henclosing : definition.address.definition? = some enclosing) :
    ∃ outer ∈ definitions, outer.address = enclosing ∧
      definition.item.extent.IsWithin outer.item.extent := by
  have haround : enclosing ∈ definitions.map (·.address) :=
    hrecord.enclosed _ (.inl (List.mem_map_of_mem hmem)) _ henclosing
  obtain ⟨outer, houter, rfl⟩ := List.mem_map.mp haround
  obtain ⟨node, -, hnode, hdefinition, -⟩ := hrecord.exists_isIn_of_mem hdown hprogram hmem
  obtain ⟨outerNode, extent, houterNode, houterDefinition, hextent⟩ :=
    hrecord.exists_isIn_of_mem hdown hprogram houter
  -- The walk up from the definition ends at a part of the enclosing one, and from there its extent
  -- is handed down again.
  obtain ⟨step, outerNode', child, -, hsuffix, houterNode', hchild⟩ :=
    hnode.exists_of_definition? henclosing
  obtain rfl := houterNode.unique houterNode'
  have hheld := hdown.held hextent step.part child (List.mem_of_getElem? hchild)
  rw [hdown.definition houterDefinition] at hheld
  obtain ⟨inner, hinner, hisIn⟩ := hnode.of_suffix
    (fun outer part ↦ hdown.exists_isIn outer part) hsuffix (.inside houterNode hchild) hheld
  have hpart := hdown.isPart hisIn (hdown.definition hdefinition)
  exact ⟨outer, houter, rfl, hpart.2.trans hinner⟩

end IsRecord

end Trees

/-! ### Extractions -/

/-- The spans of declarations are parts of the source that nest: the module spans all of it, and any
other declaration lies in the one around it. -/
structure Extraction.SpansNest (source : String) (read : Extraction) : Prop where
  isOf : ∀ declaration ∈ read.declarations, declaration.span.IsOf source
  root : ∃ root added, read.declarations = root :: added ∧ root.kind = .module ∧
    root.parent = none ∧ root.span = .ofSource source ∧
      ∀ declaration ∈ added, declaration.parent ≠ none
  isWithin : ∀ declaration ∈ read.declarations, ∀ tag, declaration.parent = some tag →
    ∃ owner, read.declarations[tag]? = some owner ∧ declaration.span.IsWithin owner.span

/-- The spans in a record of a program nest, when the program hands extents down. -/
theorem IsRecord.spansNest {Node : Type} [SizeOf Node] [SyntaxNode Node]
    {reading : NodeReading Node} {source : String} {extent? : Node → Option Extent}
    {isIn : Extent → Node → Prop} {program : List Node} {around : Extent}
    {order : Address → Address → Prop} {definitions : List (Located Definition)}
    {mentions : List (Located Mention)} {read : Extraction}
    {fits : String → SymbolKind → SymbolKind → Prop} {name : String}
    (hrecord : IsRecord order reading program definitions mentions read)
    (hdown : HandsDown reading source extent? isIn) (hprogram : ∀ node ∈ program, isIn around node)
    (hextends : Extraction.Extends fits (.ofModule name source) read) : read.SpansNest source := by
  have hnested : Extraction.Nested fits name read.declarations :=
    (Extraction.nested_ofModule name source).of_extends hextends
  obtain ⟨added, hadded, hparent⟩ := hextends.exists_added
  obtain ⟨root, htag, hnone, hkind, hdeclarations⟩ := hrecord.declarations
  obtain ⟨hroot, hsame⟩ := List.cons.inj (hdeclarations.symm.trans hadded)
  obtain rfl : definitions.map (Located.declaration (numberIn definitions)) = added := hsame
  have hspan : root.span = .ofSource source := congrArg Declaration.span hroot
  have hbelow : ∀ definition ∈ definitions,
      definition.item.extent.IsOf source := fun _ hmem ↦ hrecord.isOf_of_mem hdown hprogram hmem
  refine ⟨?_, ⟨root, _, hdeclarations, hkind, hnone, hspan, hparent⟩, ?_⟩
  · intro declaration hmem
    rw [hdeclarations] at hmem
    rcases List.mem_cons.mp hmem with rfl | hmem
    · rw [hspan]
      exact Span.isOf_ofSource source
    · obtain ⟨definition, hdefinition, rfl⟩ := List.mem_map.mp hmem
      exact (hbelow definition hdefinition).isOf_span
  · intro declaration hmem tag hparentTag
    rw [hdeclarations] at hmem
    rcases List.mem_cons.mp hmem with rfl | hmem
    · cases hnone.symm.trans hparentTag
    obtain ⟨definition, hdefinition, rfl⟩ := List.mem_map.mp hmem
    obtain rfl := Option.some.inj hparentTag
    cases henclosing : definition.address.definition? with
    | none =>
      refine ⟨root, ?_, ?_⟩
      · rw [numberIn_none, hdeclarations]
        rfl
      · rw [hspan]
        exact (hbelow definition hdefinition).isWithin_module
    | some enclosing =>
      obtain ⟨outer, houter, rfl, hwithin⟩ :=
        hrecord.exists_isWithin hdown hprogram hdefinition henclosing
      have hdeclared : outer.declaration (numberIn definitions) ∈ read.declarations := by
        rw [hdeclarations]
        exact List.mem_cons_of_mem _ (List.mem_map_of_mem houter)
      exact ⟨_, hnested.getElem?_tag hdeclared,
        (hbelow definition hdefinition).isWithin_span (hbelow outer houter) hwithin⟩

end SymbolGraph
