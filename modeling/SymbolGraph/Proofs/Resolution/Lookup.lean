import SymbolGraph.Proofs.Resolution.Pages
import SymbolGraph.Proofs.Store.Query
import SymbolGraph.Resolution.Calls
import SymbolGraph.Resolution.Imports

/-!
# What is remembered is what the store says

A run over the open rows remembers what it looked up. As the run changes neither symbols nor what
else is looked up, the memory always agrees with the store (`finds_cachedImportTarget`,
`finds_callTarget`), also when the views of files are forgotten in between. So an import is told
`importSymbol` and a call `callSymbol`, which look everything up in the store.
-/

set_option autoImplicit false
set_option relaxedAutoImplicit false

namespace SymbolGraph.Resolution

variable {σ : Type}

/-- The symbol that an import stands for. -/
def importSymbol (store : Store) (projectId : Int) (entry : Import) : Option Int :=
  importTarget entry (store.symbolsNamed projectId entry.name)

/-- The symbol that a call reaches. -/
def callSymbol (store : Store) (projectId : Int) (call : Call) : Option Int :=
  (callTarget (directLookup store projectId) call ()).1

/-! ### Imports -/

/-- The remembered symbols of a name are those of the store. -/
def NameCache.Agrees (store : Store) (projectId : Int) (cache : NameCache) : Prop :=
  ∀ name symbols, cache.lookup name = some symbols → symbols = store.symbolsNamed projectId name

theorem NameCache.agrees_nil (store : Store) (projectId : Int) :
    NameCache.Agrees store projectId [] := by
  intro name symbols hfound
  cases hfound

theorem lookUpName_of_agrees {store : Store} {projectId : Int} {cache : NameCache}
    (hcache : cache.Agrees store projectId) (name : String) :
    (lookUpName store projectId cache name).1 = store.symbolsNamed projectId name ∧
      (lookUpName store projectId cache name).2.Agrees store projectId := by
  unfold lookUpName
  split
  · rename_i symbols hfound
    exact ⟨hcache name symbols hfound, hcache⟩
  · refine ⟨rfl, fun other symbols hfound ↦ ?_⟩
    rw [List.lookup_cons] at hfound
    split at hfound
    · rename_i hsame
      rw [eq_of_beq hsame, ← Option.some.inj hfound]
    · exact hcache other symbols hfound

theorem finds_cachedImportTarget (store : Store) (projectId : Int) :
    Finds (cachedImportTarget projectId store) (NameCache.Agrees store projectId)
      (importSymbol store projectId) := by
  intro entry cache hcache
  obtain ⟨hsymbols, hlater⟩ := lookUpName_of_agrees hcache entry.name
  refine ⟨?_, hlater⟩
  unfold cachedImportTarget importSymbol
  dsimp only
  rw [hsymbols]

/-! ### Calls -/

/-- The look-ups tell what the store says, as long as the memory holds. -/
structure Lookup.Answers (lookup : Lookup σ) (holds : σ → Prop) (store : Store)
    (projectId : Int) : Prop where
  file : ∀ filePath, ∀ memory, holds memory →
    (lookup.file filePath memory).1 = store.fileView projectId filePath ∧
      holds (lookup.file filePath memory).2
  symbol : ∀ id, ∀ memory, holds memory →
    (lookup.symbol id memory).1 = store.symbol? id ∧ holds (lookup.symbol id memory).2

theorem memberTarget_of_answers {lookup : Lookup σ} {holds : σ → Prop} {store : Store}
    {projectId : Int} (hanswers : lookup.Answers holds store projectId) (targetId : Int)
    (member : String) {memory : σ} (hmemory : holds memory) :
    (memberTarget lookup targetId member memory).1 =
        (memberTarget (directLookup store projectId) targetId member ()).1 ∧
      holds (memberTarget lookup targetId member memory).2 := by
  obtain ⟨hsymbol, hlater⟩ := hanswers.symbol targetId memory hmemory
  unfold memberTarget
  rcases hlooked : lookup.symbol targetId memory with ⟨found, later⟩
  rw [hlooked] at hsymbol hlater
  have hdirect : (directLookup store projectId).symbol targetId () = (found, ()) :=
    Prod.ext hsymbol.symm rfl
  rw [hdirect]
  cases found with
  | none => exact ⟨rfl, hlater⟩
  | some target =>
    obtain ⟨hfile, hlast⟩ := hanswers.file target.filePath later hlater
    dsimp only
    rw [hfile]
    exact ⟨rfl, hlast⟩

theorem finds_callTarget {lookup : Lookup σ} {holds : σ → Prop} {store : Store} {projectId : Int}
    (hanswers : lookup.Answers holds store projectId) :
    Finds (callTarget lookup) holds (callSymbol store projectId) := by
  intro call memory hmemory
  obtain ⟨hfile, hlater⟩ := hanswers.file call.filePath memory hmemory
  unfold callSymbol callTarget
  rcases hlooked : lookup.file call.filePath memory with ⟨file, later⟩
  rw [hlooked] at hfile hlater
  dsimp only at hfile hlater
  have hdirect : (directLookup store projectId).file call.filePath () = (file, ()) :=
    Prod.ext hfile.symm rfl
  rw [hdirect]
  dsimp only
  cases calleeShape call.callee with
  | bare name => exact ⟨rfl, hlater⟩
  | onSelf member => exact ⟨rfl, hlater⟩
  | dotted qualifier member =>
    dsimp only
    cases importedQualifier file qualifier with
    | none => exact ⟨rfl, hlater⟩
    | some targetId =>
      obtain ⟨hmember, hlast⟩ := memberTarget_of_answers hanswers targetId member hlater
      dsimp only
      generalize memberTarget lookup targetId member later = cached at hmember hlast ⊢
      generalize memberTarget (directLookup store projectId) targetId member () = direct
        at hmember ⊢
      obtain ⟨found, last⟩ := cached
      obtain ⟨_, _⟩ := direct
      obtain rfl := hmember
      cases found with
      | none => exact ⟨rfl, hlast⟩
      | some symbolId => exact ⟨rfl, hlast⟩

/-- What is remembered of files and symbols is what the store says of them. -/
structure Cache.Agrees (store : Store) (projectId : Int) (cache : Cache) : Prop where
  file : ∀ filePath file, cache.files.lookup filePath = some file →
    file = store.fileView projectId filePath
  symbol : ∀ id symbol, cache.symbols.lookup id = some symbol → symbol = store.symbol? id

theorem Cache.agrees_nil (store : Store) (projectId : Int) :
    Cache.Agrees store projectId ⟨[], []⟩ where
  file := fun _ _ hfound ↦ by cases hfound
  symbol := fun _ _ hfound ↦ by cases hfound

/-- The memory of files may be emptied at any time, and the calls of the store do not matter. -/
theorem answers_cachedLookup (store : Store) (calls : List Call) (projectId : Int) :
    (cachedLookup { store with calls := calls } projectId).Answers (Cache.Agrees store projectId)
      store projectId where
  file := by
    intro filePath cache hcache
    unfold cachedLookup
    dsimp only
    split
    · rename_i file hfound
      exact ⟨hcache.file filePath file hfound, hcache⟩
    · refine ⟨rfl, fun other file hfound ↦ ?_, hcache.symbol⟩
      rw [List.lookup_cons] at hfound
      split at hfound
      · rename_i hsame
        rw [eq_of_beq hsame, ← Option.some.inj hfound]
        rfl
      · split at hfound
        · cases hfound
        · exact hcache.file other file hfound
  symbol := by
    intro id cache hcache
    unfold cachedLookup
    dsimp only
    split
    · rename_i symbol hfound
      exact ⟨hcache.symbol id symbol hfound, hcache⟩
    · refine ⟨rfl, hcache.file, fun other symbol hfound ↦ ?_⟩
      rw [List.lookup_cons] at hfound
      split at hfound
      · rename_i hsame
        rw [eq_of_beq hsame, ← Option.some.inj hfound]
        rfl
      · exact hcache.symbol other symbol hfound

end SymbolGraph.Resolution
