import Mathlib.Data.List.Nodup
import SymbolGraph.Extraction

/-!
# Declarations nest

Which symbols may be declared inside which is a relation on a name and two kinds; that of all
languages looks at the kinds alone (`FitsIn`), a language may have a narrower one. An extraction
`Extends` another when it is made from it by declarations that fit into the symbol around them,
calls from symbols that are no variables, and imports. What starts as the module of a file and is
extended stays `Nested`: tags are places in the list, only the module has no symbol around it, and
any other declaration follows the one around it and fits into it (`Nested.of_extends`). It stays
`Regular` as well: nothing starts before the module, and calls have simple names
(`Regular.of_extends`).
-/

set_option autoImplicit false
set_option relaxedAutoImplicit false

namespace SymbolGraph

/-- Modules are in nothing and nothing is in a variable; methods are in classes, and variables
in modules. -/
inductive SymbolKind.FitsIn : SymbolKind → SymbolKind → Prop
  | method : FitsIn .method .classType
  | variable : FitsIn .variable .module
  | function {outer : SymbolKind} (houter : outer ≠ .variable) : FitsIn .function outer
  | classType {outer : SymbolKind} (houter : outer ≠ .variable) : FitsIn .classType outer

theorem SymbolKind.FitsIn.ne_module {inner outer : SymbolKind} (hfits : inner.FitsIn outer) :
    inner ≠ .module := by
  cases hfits <;> simp

/-- Nothing is in a variable. -/
theorem SymbolKind.FitsIn.ne_variable {inner outer : SymbolKind} (hfits : inner.FitsIn outer) :
    outer ≠ .variable := by
  rcases hfits with _ | _ | houter | houter
  · simp
  · simp
  · exact houter
  · exact houter

/-- A method is in a class. -/
theorem SymbolKind.FitsIn.eq_classType {outer : SymbolKind} (hfits : FitsIn .method outer) :
    outer = .classType := by
  cases hfits
  rfl

/-- A variable is in a module. -/
theorem SymbolKind.FitsIn.eq_module {outer : SymbolKind} (hfits : FitsIn .variable outer) :
    outer = .module := by
  cases hfits
  rfl

namespace Extraction

variable {fits : String → SymbolKind → SymbolKind → Prop}

/-- The second extraction is the first one with more in it, all of which fits where it is. -/
inductive Extends (fits : String → SymbolKind → SymbolKind → Prop) (start : Extraction) :
    Extraction → Prop
  | refl : Extends fits start start
  | declare {extraction : Extraction} (hbefore : Extends fits start extraction)
      {owner : Declaration} (howner : owner ∈ extraction.declarations) {kind : SymbolKind}
      {name : Label} (hfits : fits name.text kind owner.kind) (signature : Option String)
      (extent : Extent) :
      Extends fits start (extraction.declare owner.tag kind name signature extent)
  | addCall {extraction : Extraction} (hbefore : Extends fits start extraction)
      {caller : Declaration} (hcaller : caller ∈ extraction.declarations)
      (hkind : caller.kind ≠ .variable) (callee : String) (line : Int) :
      Extends fits start (extraction.addCall caller.tag callee line)
  | addImports {extraction : Extraction} (hbefore : Extends fits start extraction)
      (source : String) (names : List ImportedName) (line : Int) :
      Extends fits start (extraction.addImports source names line)

theorem Extends.trans {start middle last : Extraction} (hfirst : Extends fits start middle)
    (hsecond : Extends fits middle last) : Extends fits start last := by
  induction hsecond with
  | refl => exact hfirst
  | declare _ howner hfits signature extent ih => exact ih.declare howner hfits signature extent
  | addCall _ hcaller hkind callee line ih => exact ih.addCall hcaller hkind callee line
  | addImports _ source names line ih => exact ih.addImports source names line

/-- Adding a call leaves the declarations as they are. -/
theorem declarations_addCall (extraction : Extraction) (caller : Nat) (callee : String)
    (line : Int) :
    (extraction.addCall caller callee line).declarations = extraction.declarations := by
  unfold addCall
  split
  · rfl
  · rfl

/-- What was declared stays declared. -/
theorem Extends.mem {start last : Extraction} (hextends : Extends fits start last)
    {declaration : Declaration} (hmem : declaration ∈ start.declarations) :
    declaration ∈ last.declarations := by
  induction hextends with
  | refl => exact hmem
  | declare _ _ _ _ _ ih => exact List.mem_append_left _ ih
  | addCall _ _ _ callee line ih =>
    rw [declarations_addCall]
    exact ih
  | addImports _ _ _ _ ih => exact ih

/-! ### Nested declarations -/

/-- Tags are places in the list; only the first declaration, the module of the given name, is in no
other, and each of the others is in an earlier one that it fits into. -/
structure Nested (fits : String → SymbolKind → SymbolKind → Prop) (moduleName : String)
    (declarations : List Declaration) : Prop where
  tags : declarations.map (·.tag) = List.range declarations.length
  owner : ∀ declaration ∈ declarations,
    (declaration.parent = none ∧ declaration.kind = .module ∧ declaration.name = moduleName) ∨
    ∃ owner ∈ declarations, declaration.parent = some owner.tag ∧ owner.tag < declaration.tag ∧
      fits declaration.name declaration.kind owner.kind

/-- The file of which only the module is known is nested. -/
theorem nested_ofModule (name source : String) :
    Nested fits name (ofModule name source).declarations where
  tags := rfl
  owner := by
    intro declaration hdeclaration
    rw [ofModule, List.mem_singleton] at hdeclaration
    subst hdeclaration
    exact Or.inl ⟨rfl, rfl, rfl⟩

namespace Nested

variable {moduleName : String} {declarations : List Declaration}

/-- A tag names one declaration. -/
theorem eq_of_tag_eq (hnested : Nested fits moduleName declarations) {first second : Declaration}
    (hfirst : first ∈ declarations) (hsecond : second ∈ declarations)
    (heq : first.tag = second.tag) : first = second := by
  refine List.inj_on_of_nodup_map (f := Declaration.tag) ?_ hfirst hsecond heq
  rw [hnested.tags]
  exact List.nodup_range

/-- Tags are smaller than the next one. -/
theorem tag_lt (hnested : Nested fits moduleName declarations) {declaration : Declaration}
    (hdeclaration : declaration ∈ declarations) : declaration.tag < declarations.length := by
  have htag := List.mem_map_of_mem (f := Declaration.tag) hdeclaration
  rw [hnested.tags] at htag
  exact List.mem_range.mp htag

/-- Tags ascend. -/
theorem pairwise_tag_lt (hnested : Nested fits moduleName declarations) :
    declarations.Pairwise fun first second ↦ first.tag < second.tag := by
  rw [← List.pairwise_map, hnested.tags]
  exact List.pairwise_lt_range

/-- A parent is declared earlier. -/
theorem exists_parent (hnested : Nested fits moduleName declarations) {declaration : Declaration}
    (hdeclaration : declaration ∈ declarations) {outer : Nat}
    (hparent : declaration.parent = some outer) :
    ∃ owner ∈ declarations, owner.tag = outer ∧ outer < declaration.tag := by
  rcases hnested.owner declaration hdeclaration with ⟨hroot, -⟩ | ⟨owner, howner, hownerTag, hlt, -⟩
  · rw [hroot] at hparent
    cases hparent
  · obtain rfl := Option.some.inj (hownerTag.symm.trans hparent)
    exact ⟨owner, howner, rfl, hlt⟩

theorem declare {extraction : Extraction} (hnested : Nested fits moduleName extraction.declarations)
    {owner : Declaration} (howner : owner ∈ extraction.declarations) {kind : SymbolKind}
    {name : Label} (hfits : fits name.text kind owner.kind) (signature : Option String)
    (extent : Extent) :
    Nested fits moduleName
      (extraction.declare owner.tag kind name signature extent).declarations where
  tags := by
    simp [Extraction.declare, nextTag, hnested.tags, List.range_succ]
  owner := by
    intro declaration hdeclaration
    rcases List.mem_append.mp hdeclaration with hold | hnew
    · refine (hnested.owner declaration hold).imp_right ?_
      rintro ⟨around, haround, hparent⟩
      exact ⟨around, List.mem_append_left _ haround, hparent⟩
    · rw [List.mem_singleton] at hnew
      subst hnew
      exact Or.inr ⟨owner, List.mem_append_left _ howner, rfl, hnested.tag_lt howner, hfits⟩

/-- What nests by a narrower relation nests. -/
theorem mono {wider : String → SymbolKind → SymbolKind → Prop}
    (hwider : ∀ name inner outer, fits name inner outer → wider name inner outer)
    (hnested : Nested fits moduleName declarations) : Nested wider moduleName declarations where
  tags := hnested.tags
  owner := by
    intro declaration hdeclaration
    refine (hnested.owner declaration hdeclaration).imp_right ?_
    rintro ⟨owner, howner, hparent, htag, hfits⟩
    exact ⟨owner, howner, hparent, htag, hwider _ _ _ hfits⟩

/-- Extending keeps declarations nested. -/
theorem of_extends {start last : Extraction} (hnested : Nested fits moduleName start.declarations)
    (hextends : Extends fits start last) : Nested fits moduleName last.declarations := by
  induction hextends with
  | refl => exact hnested
  | declare _ howner hfits signature extent ih => exact ih.declare howner hfits signature extent
  | addCall _ _ _ callee line ih =>
    rw [declarations_addCall]
    exact ih
  | addImports _ _ _ _ ih => exact ih

end Nested

/-! ### Lines and callees -/

/-- The module starts on the first line, nothing starts before it, and calls have simple names. -/
structure Regular (extraction : Extraction) : Prop where
  one_le_startLine : ∀ declaration ∈ extraction.declarations, 1 ≤ declaration.span.startLine
  startLine_of_root : ∀ declaration ∈ extraction.declarations, declaration.parent = none →
    declaration.span.startLine = 1
  isSimpleCallee : ∀ call ∈ extraction.calls, isSimpleCallee call.callee = true

theorem regular_ofModule (name source : String) : Regular (ofModule name source) where
  one_le_startLine := by simp [ofModule]
  startLine_of_root := by simp [ofModule]
  isSimpleCallee := by simp [ofModule]

namespace Regular

variable {extraction : Extraction}

theorem declare (hregular : extraction.Regular) (parent : Nat) (kind : SymbolKind) (name : Label)
    (signature : Option String) (extent : Extent) :
    (extraction.declare parent kind name signature extent).Regular where
  one_le_startLine := by
    refine List.forall_mem_append.mpr ⟨hregular.one_le_startLine, ?_⟩
    rw [List.forall_mem_singleton]
    exact Int.le_add_of_nonneg_left (Int.natCast_nonneg _)
  startLine_of_root := by
    refine List.forall_mem_append.mpr ⟨hregular.startLine_of_root, ?_⟩
    rw [List.forall_mem_singleton]
    exact fun hroot ↦ nomatch hroot
  isSimpleCallee := hregular.isSimpleCallee

theorem addCall (hregular : extraction.Regular) (caller : Nat) (callee : String) (line : Int) :
    (extraction.addCall caller callee line).Regular := by
  unfold Extraction.addCall
  split
  · rename_i hsimple
    refine ⟨hregular.one_le_startLine, hregular.startLine_of_root, ?_⟩
    exact List.forall_mem_append.mpr
      ⟨hregular.isSimpleCallee, List.forall_mem_singleton.mpr hsimple⟩
  · exact hregular

/-- Extending keeps an extraction regular. -/
theorem of_extends {start last : Extraction} (hregular : start.Regular)
    (hextends : Extends fits start last) : last.Regular := by
  induction hextends with
  | refl => exact hregular
  | declare _ _ _ signature extent ih => exact ih.declare _ _ _ signature extent
  | addCall _ _ _ callee line ih => exact ih.addCall _ callee line
  | addImports _ _ _ _ ih => exact ⟨ih.one_le_startLine, ih.startLine_of_root, ih.isSimpleCallee⟩

end Regular

end Extraction

end SymbolGraph
