import Mathlib.Data.Prod.Lex
import Mathlib.Data.String.Basic
import SymbolGraph.Proofs.Path.Suffix
import SymbolGraph.Proofs.Resolution.Target
import SymbolGraph.Proofs.Store.WellFormed

/-!
# Which symbol an import stands for

Many symbols may have the name of an import and lie in files that it may be taken from
(`Import.Admits`). The import stands for the one of least rank (`Import.IsChoice`), and for none
only when there is no such symbol (`exists_isChoice_of_importSymbol`, `not_admits_of_importSymbol`).
The rank puts the candidate that a file matches first, and then the shorter path, so that a file
which is the candidate comes before all files that only end with it
(`Import.IsChoice.filePath_eq`).
-/

set_option autoImplicit false
set_option relaxedAutoImplicit false

namespace SymbolGraph

/-! ### Candidates -/

/-- The files the import may be taken from, most likely first; none when the importing file is of no
language. -/
def Import.candidates (entry : Import) : List String :=
  match Language.ofPath? entry.filePath with
  | none => []
  | some language => language.importCandidates entry.filePath entry.source entry.name

theorem Import.mayComeFrom_iff {entry : Import} {filePath : String} :
    entry.MayComeFrom filePath ↔
      ∃ candidate ∈ entry.candidates, Path.matchesSuffix filePath candidate = true := by
  unfold Import.MayComeFrom Import.candidates
  cases Language.ofPath? entry.filePath with
  | none => simp
  | some language => simp

theorem Resolution.importTarget_eq (entry : Import) (symbols : List Symbol) :
    importTarget entry symbols =
      pickCandidate entry.candidates (symbols.map fun symbol ↦ (symbol.id, symbol.filePath)) := by
  unfold importTarget Import.candidates
  cases Language.ofPath? entry.filePath with
  | none => rfl
  | some language => rfl

/-- A module name that begins with no dot leads to files that do not either. -/
theorem Python.ModuleName.isPlain_of_mem_candidates {moduleName name candidate : String}
    (hcandidate : candidate ∈ candidates moduleName name) : Path.IsPlain candidate := by
  unfold candidates at hcandidate
  split at hcandidate
  · cases hcandidate
  · cases hcandidate
  · rename_i hempty hrelative
    obtain ⟨first, rest, htext⟩ := List.exists_cons_of_ne_nil hempty
    have hfirst : first ≠ '.' := fun hdot ↦ hrelative rest (hdot ▸ htext)
    rw [htext, List.map_cons, if_neg hfirst] at hcandidate
    generalize rest.map _ = others at hcandidate
    have hplain : ∀ suffix, Path.IsPlain (String.ofList (first :: others) ++ suffix) := by
      intro suffix
      have hpath : (String.ofList (first :: others) ++ suffix).toList =
          first :: (others ++ suffix.toList) := by
        rw [String.toList_append, String.toList_ofList, List.cons_append]
      exact Path.isPlain_of_toList_eq_cons hfirst hpath
    dsimp only at hcandidate
    generalize String.ofList (first :: others) = base at hcandidate hplain
    have hown : ∀ own ∈ [base ++ ".py", base ++ ".pyi", base ++ "/__init__.py"],
        Path.IsPlain own := by
      simp [hplain]
    split at hcandidate
    · exact hown candidate hcandidate
    · rcases List.mem_append.mp hcandidate with hmem | hmem
      · exact hown candidate hmem
      · rw [String.append_assoc, String.append_assoc, String.append_assoc, String.append_assoc]
          at hmem
        have hbelow : ∀ below ∈ [base ++ ("/" ++ (name ++ ".py")),
            base ++ ("/" ++ (name ++ "/__init__.py"))], Path.IsPlain below := by
          simp [hplain]
        exact hbelow candidate hmem

/-- A specifier leads to files below a place in the repository. -/
theorem JavaScript.Specifier.isPlain_of_mem_candidates {importingFile specifier candidate : String}
    (hcandidate : candidate ∈ candidates importingFile specifier) : Path.IsPlain candidate := by
  unfold candidates at hcandidate
  split at hcandidate
  · split at hcandidate
    · cases hcandidate
    · rename_i base hbase
      obtain ⟨segment, rest, hsegment, hpath⟩ := Path.exists_segment_of_join? hbase
      have hplain : ∀ suffix, Path.IsPlain (base ++ suffix) := by
        intro suffix
        have hlonger : (base ++ suffix).toList = segment.toList ++ (rest ++ suffix.toList) := by
          rw [String.toList_append, hpath, List.append_assoc]
        exact Path.isPlain_of_isSegment hsegment hlonger
      dsimp only at hcandidate
      split at hcandidate
      · rw [List.mem_singleton.mp hcandidate]
        exact Path.isPlain_of_isSegment hsegment hpath
      · rcases List.mem_append.mp hcandidate with hfile | hindex
        · obtain ⟨extension, -, rfl⟩ := List.mem_map.mp hfile
          rw [String.append_assoc]
          exact hplain _
        · rw [List.mem_singleton.mp hindex]
          exact hplain _
  · cases hcandidate

theorem Import.isPlain_of_mem_candidates {entry : Import} {candidate : String}
    (hcandidate : candidate ∈ entry.candidates) : Path.IsPlain candidate := by
  unfold Import.candidates at hcandidate
  split at hcandidate
  · cases hcandidate
  · rename_i language _
    cases language with
    | javaScript => exact JavaScript.Specifier.isPlain_of_mem_candidates hcandidate
    | python => exact Python.ModuleName.isPlain_of_mem_candidates hcandidate

/-! ### Ranks -/

/-- The key that symbols of one name are sorted by: the length of the path, the path, the line and
the id. -/
def Symbol.distance (symbol : Symbol) : ℕ ×ₗ String ×ₗ ℤ ×ₗ ℤ :=
  toLex (symbol.filePath.length, toLex (symbol.filePath, toLex (symbol.span.startLine, symbol.id)))

theorem isLE_compare_iff {α : Type} [LinearOrder α] {left right : α} :
    (compare left right).isLE = true ↔ left ≤ right := by
  rw [Ordering.isLE_iff_ne_gt, compare_gt_iff_gt, not_lt]

theorem Symbol.isLE_compareByDistance_iff {left right : Symbol} :
    (left.compareByDistance right).isLE = true ↔ left.distance ≤ right.distance := by
  unfold compareByDistance distance
  simp only [Ordering.isLE_then_iff_or, Prod.Lex.toLex_le_toLex, compare_lt_iff_lt,
    Std.LawfulEqOrd.compare_eq_iff_eq, isLE_compare_iff]

namespace Import

/-- The place of the first candidate that the path matches among the candidates. -/
def candidateIndex (entry : Import) (filePath : String) : ℕ :=
  entry.candidates.findIdx fun candidate ↦ Path.matchesSuffix filePath candidate

/-- What decides between the symbols that an import may stand for: the candidate that the file
matches, and then the distance. -/
def rank (entry : Import) (symbol : Symbol) : ℕ ×ₗ ℕ ×ₗ String ×ₗ ℤ ×ₗ ℤ :=
  toLex (entry.candidateIndex symbol.filePath, symbol.distance)

/-- The import may stand for the symbol: it is a symbol of the project with the name of the import,
in a file that the import may be taken from. -/
structure Admits (store : Store) (entry : Import) (symbol : Symbol) : Prop where
  mem : symbol ∈ store.symbols
  projectId : symbol.projectId = entry.projectId
  name : symbol.name = entry.name
  mayComeFrom : entry.MayComeFrom symbol.filePath

/-- The symbol has the least rank of all symbols that the import may stand for. -/
structure IsChoice (store : Store) (entry : Import) (symbol : Symbol) : Prop where
  admits : entry.Admits store symbol
  rank_le : ∀ other, entry.Admits store other → entry.rank symbol ≤ entry.rank other

variable {store : Store} {entry : Import} {symbol other : Symbol}

/-- Symbols of one rank are the same, since ids are part of the rank. -/
theorem IsChoice.eq (hstore : store.WellFormed) (hsymbol : entry.IsChoice store symbol)
    (hother : entry.IsChoice store other) : symbol = other := by
  have hrank := le_antisymm (hsymbol.rank_le other hother.admits)
    (hother.rank_le symbol hsymbol.admits)
  have hid : symbol.id = other.id := by
    simp only [rank, Symbol.distance, EmbeddingLike.apply_eq_iff_eq, Prod.mk.injEq] at hrank
    exact hrank.2.2.2.2
  exact hstore.symbols.eq_of_id_eq hsymbol.admits.mem hother.admits.mem hid

/-- Of the files that match one candidate, the candidate itself comes before those that only end
with it. -/
theorem IsChoice.filePath_eq (hsymbol : entry.IsChoice store symbol)
    (hother : entry.Admits store other)
    (hcandidate : entry.candidates[entry.candidateIndex symbol.filePath]? = some other.filePath) :
    symbol.filePath = other.filePath := by
  obtain ⟨hlt, hget⟩ := List.getElem?_eq_some_iff.mp hcandidate
  have hplain := isPlain_of_mem_candidates (hget ▸ List.getElem_mem hlt)
  have hmatches : Path.matchesSuffix symbol.filePath other.filePath = true :=
    hget ▸ List.findIdx_getElem (w := hlt)
  have hindex : entry.candidateIndex other.filePath ≤ entry.candidateIndex symbol.filePath := by
    refine not_lt.mp fun hbefore ↦ ?_
    have hnot := List.not_of_lt_findIdx hbefore
    rw [hget, Path.matchesSuffix_self hplain] at hnot
    cases hnot
  have hlength : symbol.filePath.length ≤ other.filePath.length := by
    rcases Prod.Lex.toLex_le_toLex.mp (hsymbol.rank_le other hother) with hbefore | ⟨-, hdistance⟩
    · exact absurd hbefore (not_lt.mpr hindex)
    · rcases Prod.Lex.toLex_le_toLex.mp hdistance with hshorter | ⟨hsame, -⟩
      · exact le_of_lt hshorter
      · exact le_of_eq hsame
  exact (Path.eq_or_length_lt_of_matchesSuffix hplain hmatches).resolve_right (not_lt.mpr hlength)

/-- A symbol in the first candidate itself is the choice, when no symbol of its file comes before
it. -/
theorem isChoice_of_head? (hsymbol : entry.Admits store symbol)
    (hhead : entry.candidates.head? = some symbol.filePath)
    (hfirst : ∀ other ∈ store.symbols, other.projectId = symbol.projectId →
      other.filePath = symbol.filePath → symbol.distance ≤ other.distance) :
    entry.IsChoice store symbol := by
  refine ⟨hsymbol, fun other hother ↦ ?_⟩
  obtain ⟨rest, hcandidates⟩ := List.head?_eq_some_iff.mp hhead
  have hplain : Path.IsPlain symbol.filePath :=
    isPlain_of_mem_candidates (hcandidates ▸ List.mem_cons_self)
  have hindex : entry.candidateIndex symbol.filePath = 0 := by
    rw [candidateIndex, hcandidates, List.findIdx_cons, Path.matchesSuffix_self hplain]
    rfl
  rw [rank, rank, hindex, Prod.Lex.toLex_le_toLex]
  refine (Nat.eq_zero_or_pos (entry.candidateIndex other.filePath)).symm.imp_right fun hzero ↦
    ⟨hzero.symm, ?_⟩
  have hmatches : Path.matchesSuffix other.filePath symbol.filePath = true := by
    rw [candidateIndex, hcandidates, List.findIdx_eq (List.length_pos_of_mem List.mem_cons_self)]
      at hzero
    exact hzero.1
  rcases Path.eq_or_length_lt_of_matchesSuffix hplain hmatches with hsame | hlonger
  · exact hfirst other hother.mem (hother.projectId.trans hsymbol.projectId.symm) hsame
  · exact Prod.Lex.toLex_le_toLex.mpr (Or.inl hlonger)

end Import

/-! ### What is found -/

/-- The first row of a sorted list that passes a test is the least that does. -/
theorem le_of_find?_eq_some {α κ : Type} [Preorder κ] {key : α → κ} {rows : List α}
    (hsorted : rows.Pairwise fun left right ↦ key left ≤ key right) {test : α → Bool} {row : α}
    (hfound : rows.find? test = some row) {other : α} (hother : other ∈ rows)
    (htest : test other = true) : key row ≤ key other := by
  obtain ⟨-, before, after, rfl, hbefore⟩ := List.find?_eq_some_iff_append.mp hfound
  rcases List.mem_append.mp hother with hearlier | hlater
  · have hnot := hbefore other hearlier
    rw [htest] at hnot
    cases hnot
  · have hrest := List.pairwise_cons.mp (List.pairwise_append.mp hsorted).2.1
    rcases List.mem_cons.mp hlater with rfl | hafter
    · exact le_refl _
    · exact hrest.1 other hafter

section Candidates

variable {α β κ : Type} [Preorder κ] {key : α → κ} {rows : List α} {passes : α → β → Bool}
  {candidates : List β} {row : α}

theorem mem_of_findSome?_find? (hfound : (candidates.findSome? fun candidate ↦
      rows.find? fun one ↦ passes one candidate) = some row) : row ∈ rows := by
  obtain ⟨candidate, -, hrow⟩ := List.exists_of_findSome?_eq_some hfound
  exact List.mem_of_find?_eq_some hrow

/-- Candidates are tried in order, each on rows that are sorted by a key. What is found is least
first by the candidate that it passes and then by its key. -/
theorem toLex_le_of_findSome?_find? (hsorted : rows.Pairwise fun left right ↦ key left ≤ key right)
    (hfound : (candidates.findSome? fun candidate ↦
      rows.find? fun one ↦ passes one candidate) = some row) {other : α} (hother : other ∈ rows) :
    toLex (candidates.findIdx (passes row), key row) ≤
      toLex (candidates.findIdx (passes other), key other) := by
  induction candidates with
  | nil => cases hfound
  | cons candidate rest ih =>
    rw [List.findIdx_cons, List.findIdx_cons, Prod.Lex.toLex_le_toLex]
    rw [List.findSome?_cons] at hfound
    cases hfirst : rows.find? fun one ↦ passes one candidate with
    | some first =>
      rw [hfirst] at hfound
      obtain rfl := Option.some.inj hfound
      have hpasses := List.find?_some hfirst
      rw [hpasses]
      cases hlater : passes other candidate with
      | true => exact Or.inr ⟨rfl, le_of_find?_eq_some hsorted hfirst hother hlater⟩
      | false => exact Or.inl (Nat.succ_pos _)
    | none =>
      rw [hfirst] at hfound
      have hnone : ∀ one ∈ rows, passes one candidate = false := fun one hone ↦
        Bool.eq_false_iff.mpr (List.find?_eq_none.mp hfirst one hone)
      rw [hnone row (mem_of_findSome?_find? hfound), hnone other hother]
      exact (Prod.Lex.toLex_le_toLex.mp (ih hfound)).imp Nat.succ_lt_succ
        fun heq ↦ ⟨congrArg Nat.succ heq.1, heq.2⟩

end Candidates

namespace Resolution

variable {store : Store} {entry : Import} {symbolId : Int}

/-- Picking a symbol by its id and file is picking the symbol. -/
theorem pickCandidate_pairs (candidates : List String) (symbols : List Symbol) :
    pickCandidate candidates (symbols.map fun symbol ↦ (symbol.id, symbol.filePath)) =
      (candidates.findSome? fun candidate ↦ symbols.find? fun symbol ↦
        Path.matchesSuffix symbol.filePath candidate).map Symbol.id := by
  rw [pickCandidate, List.map_findSome?]
  refine congrArg (candidates.findSome? ·) (funext fun candidate ↦ ?_)
  rw [List.find?_map, Option.map_map]
  rfl

theorem importSymbol_eq (store : Store) (projectId : Int) (entry : Import) :
    importSymbol store projectId entry =
      (entry.candidates.findSome? fun candidate ↦
        (store.symbolsNamed projectId entry.name).find? fun symbol ↦
          Path.matchesSuffix symbol.filePath candidate).map Symbol.id := by
  rw [importSymbol, importTarget_eq, pickCandidate_pairs]

/-- What is found for an import has the least rank of all that the import may stand for. -/
theorem exists_isChoice_of_importSymbol
    (hfound : importSymbol store entry.projectId entry = some symbolId) :
    ∃ symbol, entry.IsChoice store symbol ∧ symbol.id = symbolId := by
  rw [importSymbol_eq] at hfound
  obtain ⟨symbol, hsymbol, hid⟩ := Option.map_eq_some_iff.mp hfound
  obtain ⟨hstored, hproject, hname⟩ :=
    Store.mem_symbolsNamed_iff.mp (mem_of_findSome?_find? hsymbol)
  obtain ⟨candidate, hcandidate, hfirst⟩ := List.exists_of_findSome?_eq_some hsymbol
  have hmatches := List.find?_some hfirst
  have hsorted : (store.symbolsNamed entry.projectId entry.name).Pairwise fun left right ↦
      left.distance ≤ right.distance :=
    (pairwise_sortBy _).imp Symbol.isLE_compareByDistance_iff.mp
  refine ⟨symbol, ⟨⟨hstored, hproject, hname, ?_⟩, fun other hother ↦ ?_⟩, hid⟩
  · exact Import.mayComeFrom_iff.mpr ⟨candidate, hcandidate, hmatches⟩
  · exact toLex_le_of_findSome?_find? hsorted hsymbol
      (Store.mem_symbolsNamed_iff.mpr ⟨hother.mem, hother.projectId, hother.name⟩)

/-- Nothing is found for an import only when there is nothing that it may stand for. -/
theorem not_admits_of_importSymbol (hnone : importSymbol store entry.projectId entry = none)
    (symbol : Symbol) : ¬entry.Admits store symbol := by
  intro hadmits
  rw [importSymbol_eq, Option.map_eq_none_iff, List.findSome?_eq_none_iff] at hnone
  obtain ⟨candidate, hcandidate, hmatches⟩ := Import.mayComeFrom_iff.mp hadmits.mayComeFrom
  have hnamed : symbol ∈ store.symbolsNamed entry.projectId entry.name :=
    Store.mem_symbolsNamed_iff.mpr ⟨hadmits.mem, hadmits.projectId, hadmits.name⟩
  exact List.find?_eq_none.mp (hnone candidate hcandidate) symbol hnamed hmatches

/-- What an import stands for is the choice. -/
theorem importSymbol_of_isChoice (hstore : store.WellFormed) {symbol : Symbol}
    (hchoice : entry.IsChoice store symbol) :
    importSymbol store entry.projectId entry = some symbol.id := by
  cases hfound : importSymbol store entry.projectId entry with
  | none => exact absurd hchoice.admits (not_admits_of_importSymbol hfound symbol)
  | some symbolId =>
    obtain ⟨other, hother, rfl⟩ := exists_isChoice_of_importSymbol hfound
    rw [hother.eq hstore hchoice]

end Resolution

end SymbolGraph
