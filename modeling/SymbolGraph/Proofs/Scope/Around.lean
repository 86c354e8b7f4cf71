import SymbolGraph.Proofs.Pipeline.Forest
import SymbolGraph.Proofs.Resolution.FileView

/-!
# The symbols around a symbol

Going up from a symbol of a file, a view of the file takes no more levels than the file has symbols.
Where symbols nest this is no limit: ids become smaller from parent to parent, so the chain lists
the symbol and all those around it, each inside the ones after it (`mem_enclosing_iff`,
`pairwise_enclosing`). So the first one on the chain that passes a test is the nearest
(`find?_enclosing_eq_some_iff`), however deep the symbol lies.
-/

set_option autoImplicit false
set_option relaxedAutoImplicit false

namespace SymbolGraph

namespace Store

/-- The second symbol is the first one, or lies around it at any depth. -/
def IsAround (store : Store) : Symbol → Symbol → Prop :=
  Relation.ReflTransGen store.IsParent

/-- Of a symbol and those around it, the innermost one that has a property. -/
structure IsNearest (store : Store) (property : Symbol → Prop) (source nearest : Symbol) :
    Prop where
  around : store.IsAround source nearest
  holds : property nearest
  /-- Whichever else has the property lies around this one. -/
  inmost : ∀ other, store.IsAround source other → property other → store.IsAround nearest other

variable {store : Store}

/-- A nearest symbol is one for every property that the same symbols around have. -/
theorem IsNearest.congr {first second : Symbol → Prop} {source nearest : Symbol}
    (hiff : ∀ symbol, store.IsAround source symbol → (first symbol ↔ second symbol)) :
    store.IsNearest first source nearest ↔ store.IsNearest second source nearest := by
  constructor
  · rintro ⟨haround, hholds, hinmost⟩
    exact ⟨haround, (hiff nearest haround).mp hholds, fun other hother hsecond ↦
      hinmost other hother ((hiff other hother).mpr hsecond)⟩
  · rintro ⟨haround, hholds, hinmost⟩
    exact ⟨haround, (hiff nearest haround).mpr hholds, fun other hother hfirst ↦
      hinmost other hother ((hiff other hother).mp hfirst)⟩

theorem mem_symbols_of_isAround {source symbol : Symbol} (hsource : source ∈ store.symbols)
    (haround : store.IsAround source symbol) : symbol ∈ store.symbols := by
  rcases Relation.ReflTransGen.cases_tail haround with rfl | ⟨_, _, hparent⟩
  · exact hsource
  · exact hparent.1

/-- Symbols do not lie around each other. -/
theorem Nested.eq_of_isAround (hnested : store.Nested) (hstore : store.WellFormed)
    {first second : Symbol} (hfirst : first ∈ store.symbols)
    (haround : store.IsAround first second) (hback : store.IsAround second first) :
    first = second := by
  have hsecond := mem_symbols_of_isAround hfirst haround
  have hle := hnested.id_le_of_chain hfirst haround
  have hge := hnested.id_le_of_chain hsecond hback
  exact hstore.symbols.eq_of_id_eq hfirst hsecond (Int.le_antisymm hge hle)

/-! ### Parents in the view of a file -/

section View

variable {projectId : Int} {filePath : String}

/-- A symbol of the file is found by its id. -/
theorem WellFormed.symbol?_fileView (hstore : store.WellFormed) {symbol : Symbol}
    (hsymbol : symbol ∈ (store.fileView projectId filePath).symbols) :
    (store.fileView projectId filePath).symbol? symbol.id = some symbol := by
  cases hfound : (store.fileView projectId filePath).symbol? symbol.id with
  | none => exact absurd (beq_self_eq_true symbol.id) (List.find?_eq_none.mp hfound symbol hsymbol)
  | some other =>
    obtain ⟨hmem, hid⟩ := FileView.mem_of_symbol?_eq_some hfound
    have hother := (mem_symbols_fileView_iff.mp hmem).1
    rw [hstore.symbols.eq_of_id_eq hother (mem_symbols_fileView_iff.mp hsymbol).1 hid]

variable (hstore : store.WellFormed) (hnested : store.Nested) {child parent : Symbol}
  (hchild : child ∈ (store.fileView projectId filePath).symbols)

include hstore hnested hchild

/-- A parent is an older symbol of the file. -/
theorem IsParent.older (hparent : store.IsParent child parent) :
    parent ∈ (store.fileView projectId filePath).symbols ∧ parent.id < child.id := by
  obtain ⟨hmem, hproject, hfile⟩ := mem_symbols_fileView_iff.mp hchild
  obtain ⟨same, hsame, hid, hsameProject, hsameFile, hlt, -⟩ :=
    (hnested child hmem).parent parent.id hparent.2
  obtain rfl := hstore.symbols.eq_of_id_eq hsame hparent.1 hid
  exact ⟨mem_symbols_fileView_iff.mpr ⟨hsame, hsameProject.trans hproject,
    hsameFile.trans hfile⟩, hlt⟩

/-- The next level of a chain is the parent. -/
theorem bind_symbol?_eq_some_iff :
    child.parentId.bind (store.fileView projectId filePath).symbol? = some parent ↔
      store.IsParent child parent := by
  rw [Option.bind_eq_some_iff]
  constructor
  · rintro ⟨parentId, hparentId, hfound⟩
    obtain ⟨hmem, rfl⟩ := FileView.mem_of_symbol?_eq_some hfound
    exact ⟨(mem_symbols_fileView_iff.mp hmem).1, hparentId⟩
  · intro hparent
    have hmem := (hparent.older hstore hnested hchild).1
    exact ⟨parent.id, hparent.2, hstore.symbol?_fileView hmem⟩

end View

/-! ### Chains -/

section Chain

variable {projectId : Int} {filePath : String} (hstore : store.WellFormed) (hnested : store.Nested)
  {source : Symbol} (hsource : source ∈ (store.fileView projectId filePath).symbols)

include hstore hnested hsource

theorem isAround_of_mem_chain {levels : Nat} {symbol : Symbol}
    (hmem : symbol ∈ (store.fileView projectId filePath).chain levels (some source)) :
    store.IsAround source symbol := by
  induction levels generalizing source with
  | zero => cases hmem
  | succ levels ih =>
    rcases List.mem_cons.mp hmem with rfl | houter
    · exact .refl
    · cases hnext : source.parentId.bind (store.fileView projectId filePath).symbol? with
      | none =>
        rw [hnext, FileView.chain_none] at houter
        cases houter
      | some parent =>
        rw [hnext] at houter
        have hparent := (bind_symbol?_eq_some_iff hstore hnested hsource).mp hnext
        exact .head hparent (ih (hparent.older hstore hnested hsource).1 houter)

/-- Each symbol on a chain lies inside those after it. -/
theorem pairwise_chain (levels : Nat) :
    ((store.fileView projectId filePath).chain levels (some source)).Pairwise store.IsAround := by
  induction levels generalizing source with
  | zero => exact List.Pairwise.nil
  | succ levels ih =>
    refine List.pairwise_cons.mpr ⟨fun symbol houter ↦ ?_, ?_⟩
    · have hmem : symbol ∈ (store.fileView projectId filePath).chain (levels + 1) (some source) :=
        List.mem_cons_of_mem source houter
      exact isAround_of_mem_chain hstore hnested hsource hmem
    · cases hnext : source.parentId.bind (store.fileView projectId filePath).symbol? with
      | none =>
        rw [FileView.chain_none]
        exact List.Pairwise.nil
      | some parent =>
        have hparent := (bind_symbol?_eq_some_iff hstore hnested hsource).mp hnext
        exact ih (hparent.older hstore hnested hsource).1

/-- With as many levels as there are symbols that are not younger, a chain goes all the way up. -/
theorem mem_chain_of_isAround {levels : Nat} {symbol : Symbol}
    (hlevels : (store.fileView projectId filePath).symbols.countP (·.id ≤ source.id) ≤ levels)
    (haround : store.IsAround source symbol) :
    symbol ∈ (store.fileView projectId filePath).chain levels (some source) := by
  induction levels generalizing source with
  | zero =>
    have hpositive : 0 < (store.fileView projectId filePath).symbols.countP (·.id ≤ source.id) :=
      List.countP_pos_iff.mpr ⟨source, hsource, decide_eq_true (Int.le_refl _)⟩
    omega
  | succ levels ih =>
    rcases Relation.ReflTransGen.cases_head haround with rfl | ⟨parent, hparent, houter⟩
    · exact List.mem_cons_self
    · obtain ⟨hmem, hlt⟩ := hparent.older hstore hnested hsource
      have hfewer : (store.fileView projectId filePath).symbols.countP (·.id ≤ parent.id) <
          (store.fileView projectId filePath).symbols.countP (·.id ≤ source.id) := by
        refine countP_lt_countP (fun other _ hle ↦ ?_) hsource ?_ ?_
        · exact decide_eq_true (Int.le_trans (of_decide_eq_true hle) (Int.le_of_lt hlt))
        · exact decide_eq_false (Int.not_le.mpr hlt)
        · exact decide_eq_true (Int.le_refl _)
      have hnext := (bind_symbol?_eq_some_iff hstore hnested hsource).mpr hparent
      rw [FileView.chain, hnext]
      exact List.mem_cons_of_mem source (ih hmem (by omega) houter)

/-- A chain has the symbol and all those around it. -/
theorem mem_enclosing_iff {symbol : Symbol} :
    symbol ∈ (store.fileView projectId filePath).enclosing source.id ↔
      store.IsAround source symbol := by
  rw [FileView.enclosing, hstore.symbol?_fileView hsource]
  refine ⟨isAround_of_mem_chain hstore hnested hsource,
    mem_chain_of_isAround hstore hnested hsource ?_⟩
  exact Nat.le_succ_of_le List.countP_le_length

theorem pairwise_enclosing :
    ((store.fileView projectId filePath).enclosing source.id).Pairwise store.IsAround := by
  rw [FileView.enclosing, hstore.symbol?_fileView hsource]
  exact pairwise_chain hstore hnested hsource _

/-! ### The nearest -/

/-- The nearest symbol with a property is the one that no other with it comes before. -/
theorem isNearest_iff_append {property : Symbol → Prop} {nearest : Symbol} :
    store.IsNearest property source nearest ↔ property nearest ∧ ∃ before after,
      (store.fileView projectId filePath).enclosing source.id = before ++ nearest :: after ∧
        ∀ symbol ∈ before, ¬property symbol := by
  have hmem : ∀ symbol, symbol ∈ (store.fileView projectId filePath).enclosing source.id ↔
      store.IsAround source symbol := fun _ ↦ mem_enclosing_iff hstore hnested hsource
  have hpairwise := pairwise_enclosing hstore hnested hsource
  constructor
  · intro hnearest
    obtain ⟨before, after, hchain, hfirst⟩ :=
      List.eq_append_cons_of_mem ((hmem nearest).mpr hnearest.around)
    refine ⟨hnearest.holds, before, after, hchain, fun symbol hbefore hholds ↦ hfirst ?_⟩
    have haround := (hmem symbol).mp (hchain ▸ List.mem_append_left _ hbefore)
    have hinner : store.IsAround symbol nearest := by
      rw [hchain, List.pairwise_append] at hpairwise
      exact hpairwise.2.2 symbol hbefore nearest List.mem_cons_self
    have hstored := mem_symbols_of_isAround (mem_symbols_fileView_iff.mp hsource).1 haround
    rwa [← hnested.eq_of_isAround hstore hstored hinner (hnearest.inmost symbol haround hholds)]
  · rintro ⟨hholds, before, after, hchain, hbefore⟩
    refine ⟨(hmem nearest).mp (hchain ▸ List.mem_append_right _ List.mem_cons_self), hholds, ?_⟩
    intro other haround hother
    have hplace := (hmem other).mpr haround
    rw [hchain] at hplace hpairwise
    rcases List.mem_append.mp hplace with hearlier | hlater
    · exact absurd hother (hbefore other hearlier)
    · rcases List.mem_cons.mp hlater with rfl | hafter
      · exact .refl
      · exact (List.pairwise_cons.mp (List.pairwise_append.mp hpairwise).2.1).1 other hafter

/-- The first symbol on a chain that passes a test is the nearest that does. -/
theorem find?_enclosing_eq_some_iff {test : Symbol → Bool} {nearest : Symbol} :
    ((store.fileView projectId filePath).enclosing source.id).find? test = some nearest ↔
      store.IsNearest (fun symbol ↦ test symbol = true) source nearest := by
  rw [List.find?_eq_some_iff_append, isNearest_iff_append hstore hnested hsource]
  simp

/-- What each symbol on a chain is asked for is answered by the nearest that has an answer. -/
theorem findSome?_enclosing_eq_some_iff {α : Type} {answer : Symbol → Option α} {value : α} :
    ((store.fileView projectId filePath).enclosing source.id).findSome? answer = some value ↔
      ∃ nearest, store.IsNearest (fun symbol ↦ answer symbol ≠ none) source nearest ∧
        answer nearest = some value := by
  rw [List.findSome?_eq_some_iff]
  constructor
  · rintro ⟨before, nearest, after, hchain, hvalue, hbefore⟩
    refine ⟨nearest, (isNearest_iff_append hstore hnested hsource).mpr ?_, hvalue⟩
    refine ⟨hvalue ▸ Option.some_ne_none value, before, after, hchain, fun symbol hmem ↦ ?_⟩
    exact not_not.mpr (hbefore symbol hmem)
  · rintro ⟨nearest, hnearest, hvalue⟩
    obtain ⟨-, before, after, hchain, hbefore⟩ :=
      (isNearest_iff_append hstore hnested hsource).mp hnearest
    exact ⟨before, nearest, after, hchain, hvalue, fun symbol hmem ↦
      not_not.mp (hbefore symbol hmem)⟩

end Chain

end Store

end SymbolGraph
