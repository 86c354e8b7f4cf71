import Mathlib
import SymbolGraph.Python.Parser

/-!
# The shape of Python syntax trees

What is kept of an expression are calls with calls in them (`Tree.IsExpression`): an expression
defines nothing. What is kept of a statement may also be a definition or an import; a definition has
expressions for its type parameters, its parameters, its bases and its return annotation, and
statements only in its body (`Tree.IsStatement`).

A parser is shown to find only such trees by a triple without a precondition: whatever the parser
finds, if it finds something, has the property (`triple_iff`). How a parser fails and which tokens
it takes does not matter here, so every parser that finds no trees has the trivial triple
(`triple_trivial`).
-/

set_option autoImplicit false
set_option relaxedAutoImplicit false
set_option mvcgen.warning false

namespace SymbolGraph.Python

open Std.Do

/-- Calls, and nothing but calls in them. -/
inductive Tree.IsExpression : Tree → Prop
  | call {callee : String} {line : Int} {parts : List Tree}
      (hparts : ∀ part ∈ parts, part.IsExpression) : IsExpression (.call callee line parts)

/-- The parts of an expression. -/
def AreExpressions (parts : List Tree) : Prop :=
  ∀ part ∈ parts, part.IsExpression

/-- Definitions are made in bodies only. -/
inductive Tree.IsStatement : Tree → Prop
  | expression {tree : Tree} (hexpression : tree.IsExpression) : IsStatement tree
  | function {name : Identifier} {signature : String} {extent : Extent}
      {typeParameters parameters returns body : List Tree}
      (htypes : AreExpressions typeParameters) (hparameters : AreExpressions parameters)
      (hreturns : AreExpressions returns) (hbody : ∀ tree ∈ body, tree.IsStatement) :
      IsStatement (.function name signature extent typeParameters parameters returns body)
  | classDefinition {name : Identifier} {extent : Extent} {typeParameters bases body : List Tree}
      (htypes : AreExpressions typeParameters) (hbases : AreExpressions bases)
      (hbody : ∀ tree ∈ body, tree.IsStatement) :
      IsStatement (.classDefinition name extent typeParameters bases body)
  | assignment {name : Identifier} {extent : Extent} {parts : List Tree}
      (hparts : AreExpressions parts) : IsStatement (.assignment name extent parts)
  | importModules (modules : List ImportedModule) (line : Int) :
      IsStatement (.importModules modules line)
  | importNames (source : String) (names : List ImportedName) (line : Int) :
      IsStatement (.importNames source names line)

/-- The parts of a statement. -/
def AreStatements (parts : List Tree) : Prop :=
  ∀ part ∈ parts, part.IsStatement

section Parts

variable {parts first second : List Tree}

@[simp] theorem areExpressions_nil : AreExpressions [] :=
  fun _ hpart ↦ nomatch hpart

@[simp] theorem areExpressions_call_iff {callee : String} {line : Int} :
    AreExpressions [.call callee line parts] ↔ AreExpressions parts := by
  refine List.forall_mem_singleton.trans ⟨fun hcall ↦ ?_, .call⟩
  cases hcall with
  | call hparts => exact hparts

@[simp] theorem areExpressions_append_iff :
    AreExpressions (first ++ second) ↔ AreExpressions first ∧ AreExpressions second :=
  List.forall_mem_append

@[simp] theorem areExpressions_flatten_iff {lists : List (List Tree)} :
    AreExpressions lists.flatten ↔ ∀ parts ∈ lists, AreExpressions parts :=
  List.forall_mem_flatten

@[simp] theorem areExpressions_allParts_iff {operands : List Operand} :
    AreExpressions (Operand.allParts operands) ↔
      ∀ operand ∈ operands, AreExpressions operand.parts :=
  List.forall_mem_flatMap

@[simp] theorem areStatements_nil : AreStatements [] :=
  fun _ hpart ↦ nomatch hpart

@[simp] theorem areStatements_singleton_iff {tree : Tree} :
    AreStatements [tree] ↔ tree.IsStatement :=
  List.forall_mem_singleton

@[simp] theorem areStatements_append_iff :
    AreStatements (first ++ second) ↔ AreStatements first ∧ AreStatements second :=
  List.forall_mem_append

@[simp] theorem areStatements_flatten_iff {lists : List (List Tree)} :
    AreStatements lists.flatten ↔ ∀ parts ∈ lists, AreStatements parts :=
  List.forall_mem_flatten

section Definitions

variable {name : Identifier} {signature : String} {extent : Extent}
  {typeParameters parameters returns bases body : List Tree}

@[simp] theorem Tree.isStatement_call_iff {callee : String} {line : Int} :
    (call callee line parts).IsStatement ↔ AreExpressions parts := by
  constructor
  · rintro ⟨hexpression⟩
    cases hexpression with
    | call hparts => exact hparts
  · exact fun hparts ↦ .expression (.call hparts)

@[simp] theorem Tree.isStatement_function_iff :
    (function name signature extent typeParameters parameters returns body).IsStatement ↔
      AreExpressions typeParameters ∧ AreExpressions parameters ∧ AreExpressions returns ∧
        AreStatements body := by
  constructor
  · rintro (hexpression | ⟨htypes, hparameters, hreturns, hbody⟩)
    · cases hexpression
    · exact ⟨htypes, hparameters, hreturns, hbody⟩
  · rintro ⟨htypes, hparameters, hreturns, hbody⟩
    exact .function htypes hparameters hreturns hbody

@[simp] theorem Tree.isStatement_classDefinition_iff :
    (classDefinition name extent typeParameters bases body).IsStatement ↔
      AreExpressions typeParameters ∧ AreExpressions bases ∧ AreStatements body := by
  constructor
  · rintro (hexpression | _ | ⟨htypes, hbases, hbody⟩)
    · cases hexpression
    · exact ⟨htypes, hbases, hbody⟩
  · rintro ⟨htypes, hbases, hbody⟩
    exact .classDefinition htypes hbases hbody

@[simp] theorem Tree.isStatement_assignment_iff :
    (assignment name extent parts).IsStatement ↔ AreExpressions parts := by
  constructor
  · rintro (hexpression | _ | _ | hparts)
    · cases hexpression
    · exact hparts
  · exact .assignment

end Definitions

/-- An expression makes a statement. -/
@[simp] theorem AreExpressions.areStatements (hparts : AreExpressions parts) :
    AreStatements parts :=
  fun part hpart ↦ .expression (hparts part hpart)

@[simp] theorem Operand.parts_plain (parts : List Tree) : (Operand.plain parts).parts = parts :=
  rfl

@[simp] theorem Operand.parts_collect (operands : List Operand) :
    (Operand.collect operands).parts = Operand.allParts operands :=
  rfl

@[simp] theorem Operand.parts_starred (operand : Operand) : operand.starred.parts = operand.parts :=
  rfl

/-- Prefixes change the form of an operand, but not its parts. -/
@[simp] theorem Operand.parts_prefixed (condition : Prop) [Decidable condition]
    (operand : Operand) :
    (if condition then operand else Operand.plain operand.parts).parts = operand.parts := by
  split
  · rfl
  · rfl

end Parts

namespace Parser

variable {α : Type} {parser other : Parser α} {property : α → Prop}

/-- Whatever the parser finds has the property. -/
theorem triple_iff : ⦃⌜True⌝⦄ parser ⦃⇓? found => ⌜property found⌝⦄ ↔
    ∀ remaining found rest, parser.run remaining = some (found, rest) → property found := by
  constructor
  · intro htriple remaining found rest hrun
    have hwp := htriple remaining trivial
    change (wp⟦parser.run remaining⟧ _).down at hwp
    rw [hrun] at hwp
    exact hwp
  · intro hproperty remaining _
    change (wp⟦parser.run remaining⟧ _).down
    cases hrun : parser.run remaining with
    | none => trivial
    | some pair => exact hproperty _ _ _ hrun

theorem triple_mono {wider : α → Prop} (hwider : ∀ found, property found → wider found)
    (hparser : ⦃⌜True⌝⦄ parser ⦃⇓? found => ⌜property found⌝⦄) :
    ⦃⌜True⌝⦄ parser ⦃⇓? found => ⌜wider found⌝⦄ :=
  triple_iff.mpr fun remaining found rest hrun ↦
    hwider found (triple_iff.mp hparser remaining found rest hrun)

/-- Nothing is known of what other parsers find. -/
@[spec low]
theorem triple_trivial (parser : Parser α) : ⦃⌜True⌝⦄ parser ⦃⇓? _ => ⌜True⌝⦄ :=
  triple_iff.mpr fun _ _ _ _ ↦ trivial

@[spec]
theorem triple_failure : ⦃⌜True⌝⦄ (failure : Parser α) ⦃⇓? _ => ⌜False⌝⦄ :=
  triple_iff.mpr fun _ _ _ hrun ↦ nomatch hrun

theorem triple_orElse (hparser : ⦃⌜True⌝⦄ parser ⦃⇓? found => ⌜property found⌝⦄)
    (hother : ⦃⌜True⌝⦄ other ⦃⇓? found => ⌜property found⌝⦄) :
    ⦃⌜True⌝⦄ (parser <|> other) ⦃⇓? found => ⌜property found⌝⦄ := by
  rw [triple_iff] at hparser hother ⊢
  intro remaining found rest hrun
  change (parser.run remaining).orElse (fun _ ↦ other.run remaining) = _ at hrun
  cases hfirst : parser.run remaining with
  | none =>
    rw [hfirst] at hrun
    exact hother _ _ _ hrun
  | some pair =>
    rw [hfirst] at hrun
    exact hparser _ _ _ (hfirst.trans hrun)

/-- What is found again and again has the property of what is found once. -/
theorem triple_repeatUpTo (more : Parser Bool)
    (hitem : ⦃⌜True⌝⦄ parser ⦃⇓? found => ⌜property found⌝⦄) (count : Nat) :
    ⦃⌜True⌝⦄ repeatUpTo more parser count ⦃⇓? found => ⌜∀ item ∈ found, property item⌝⦄ := by
  induction count with
  | zero =>
    unfold repeatUpTo
    mvcgen
    simp
  | succ count ih =>
    unfold repeatUpTo
    mvcgen [hitem, ih]
    all_goals simp_all

theorem triple_repeatWhile (more : Parser Bool)
    (hitem : ⦃⌜True⌝⦄ parser ⦃⇓? found => ⌜property found⌝⦄) :
    ⦃⌜True⌝⦄ repeatWhile more parser ⦃⇓? found => ⌜∀ item ∈ found, property item⌝⦄ := by
  have hitems := triple_repeatUpTo more hitem
  unfold repeatWhile
  mvcgen [hitems]

theorem triple_separated (begins : Parser Bool)
    (hitem : ⦃⌜True⌝⦄ parser ⦃⇓? found => ⌜property found⌝⦄) :
    ⦃⌜True⌝⦄ separated begins parser ⦃⇓? found => ⌜∀ item ∈ found, property item⌝⦄ := by
  have hnext : ⦃⌜True⌝⦄ (do
      expectSymbol ","
      if ← begins then return some (← parser) else return none)
      ⦃⇓? found => ⌜∀ item ∈ found, property item⌝⦄ := by
    mvcgen [hitem]
    all_goals simp_all
  have hrest := triple_repeatWhile (seesSymbol ",") hnext
  unfold separated
  mvcgen [hitem, hrest]
  · rename_i hfirst _ _ _ hfound
    refine List.forall_mem_cons.mpr ⟨hfirst, fun item hmem ↦ ?_⟩
    obtain ⟨_, hone, hsome⟩ := List.mem_filterMap.mp hmem
    exact hfound _ hone item hsome
  · exact fun _ hfalse ↦ hfalse.elim

theorem triple_separatedUntil (close : String)
    (hitem : ⦃⌜True⌝⦄ parser ⦃⇓? found => ⌜property found⌝⦄) :
    ⦃⌜True⌝⦄ separatedUntil close parser ⦃⇓? found => ⌜∀ item ∈ found, property item⌝⦄ := by
  have hitems := fun begins ↦ triple_separated begins hitem
  unfold separatedUntil
  mvcgen [hitems]

/-! ### Lists of expressions -/

@[spec]
theorem areExpressions_separated (begins : Parser Bool) {item : Parser Operand}
    (hitem : ⦃⌜True⌝⦄ item ⦃⇓? found => ⌜AreExpressions found.parts⌝⦄) :
    ⦃⌜True⌝⦄ separated begins item ⦃⇓? found => ⌜∀ one ∈ found, AreExpressions one.parts⌝⦄ :=
  triple_separated begins hitem

@[spec]
theorem areExpressions_separatedUntil (close : String) {item : Parser Operand}
    (hitem : ⦃⌜True⌝⦄ item ⦃⇓? found => ⌜AreExpressions found.parts⌝⦄) :
    ⦃⌜True⌝⦄ separatedUntil close item
      ⦃⇓? found => ⌜∀ one ∈ found, AreExpressions one.parts⌝⦄ :=
  triple_separatedUntil close hitem

@[spec]
theorem areExpressions_partsUntil (close : String) {item : Parser (List Tree)}
    (hitem : ⦃⌜True⌝⦄ item ⦃⇓? found => ⌜AreExpressions found⌝⦄) :
    ⦃⌜True⌝⦄ separatedUntil close item ⦃⇓? found => ⌜∀ one ∈ found, AreExpressions one⌝⦄ :=
  triple_separatedUntil close hitem

theorem areExpressions_repeatWhile (more : Parser Bool) {item : Parser (List Tree)}
    (hitem : ⦃⌜True⌝⦄ item ⦃⇓? found => ⌜AreExpressions found⌝⦄) :
    ⦃⌜True⌝⦄ repeatWhile more item ⦃⇓? found => ⌜∀ one ∈ found, AreExpressions one⌝⦄ :=
  triple_repeatWhile more hitem

theorem areStatements_repeatWhile (more : Parser Bool) {item : Parser (List Tree)}
    (hitem : ⦃⌜True⌝⦄ item ⦃⇓? found => ⌜AreStatements found⌝⦄) :
    ⦃⌜True⌝⦄ repeatWhile more item ⦃⇓? found => ⌜∀ one ∈ found, AreStatements one⌝⦄ :=
  triple_repeatWhile more hitem

end Parser

end SymbolGraph.Python
