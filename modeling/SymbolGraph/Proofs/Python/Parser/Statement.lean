import SymbolGraph.Proofs.Python.Parser.Expression

/-!
# Python programs are made of statements

Each parser of the grammar of statements finds the parts of a statement, provided that the rules
nested in it do (`areStatements_statement`), and the parsers of assignments, type parameters and
patterns find those of an expression. As a rule calls the others at a smaller depth, a program has
nothing but statements (`areStatements_of_parse?`).
-/

set_option autoImplicit false
set_option relaxedAutoImplicit false
set_option mvcgen.warning false

namespace SymbolGraph.Python.Parser

open Std.Do
open Text (Place)

section Grammar

variable {self : Rule → Parser Operand}
  (hexpression : ⦃⌜True⌝⦄ self .expression ⦃⇓? found => ⌜AreExpressions found.parts⌝⦄)

include hexpression

/-! ### Simple statements -/

@[spec]
theorem areExpressions_typeParameters :
    ⦃⌜True⌝⦄ typeParameters self ⦃⇓? found => ⌜AreExpressions found⌝⦄ := by
  unfold typeParameters
  mvcgen [hexpression]
  all_goals simp_all

@[spec]
theorem areExpressions_typeStatement :
    ⦃⌜True⌝⦄ typeStatement self ⦃⇓? found => ⌜AreExpressions found⌝⦄ := by
  unfold typeStatement
  mvcgen [hexpression]
  all_goals simp_all

@[spec]
theorem areExpressions_optionalList (stops : List String) :
    ⦃⌜True⌝⦄ optionalList self stops ⦃⇓? found => ⌜AreExpressions found⌝⦄ := by
  unfold optionalList
  mvcgen [hexpression]
  all_goals simp_all

@[spec]
theorem areExpressions_raiseStatement :
    ⦃⌜True⌝⦄ raiseStatement self ⦃⇓? found => ⌜AreExpressions found⌝⦄ := by
  unfold raiseStatement
  mvcgen [hexpression]
  all_goals simp_all

omit hexpression in
/-- The names of a declaration have no parts. -/
@[spec]
theorem areExpressions_declarationStatement :
    ⦃⌜True⌝⦄ declarationStatement ⦃⇓? found => ⌜AreExpressions found⌝⦄ := by
  unfold declarationStatement
  mvcgen
  simp

@[spec]
theorem areExpressions_printStatement :
    ⦃⌜True⌝⦄ printStatement self ⦃⇓? found => ⌜AreExpressions found⌝⦄ := by
  unfold printStatement
  mvcgen [hexpression]
  all_goals simp_all

@[spec]
theorem areExpressions_execStatement :
    ⦃⌜True⌝⦄ execStatement self ⦃⇓? found => ⌜AreExpressions found⌝⦄ := by
  unfold execStatement
  mvcgen [hexpression]
  all_goals simp_all

@[spec]
theorem areExpressions_assigned (count : Nat) {left : Operand}
    (hleft : AreExpressions left.parts) :
    ⦃⌜True⌝⦄ assigned self count left ⦃⇓? found => ⌜AreExpressions found⌝⦄ := by
  induction count generalizing left with
  | zero =>
    unfold assigned
    mvcgen
  | succ count ih =>
    unfold assigned
    mvcgen [hexpression, ih]
    all_goals simp_all

@[spec]
theorem areStatements_expressionStatement :
    ⦃⌜True⌝⦄ expressionStatement self ⦃⇓? found => ⌜AreStatements found⌝⦄ := by
  unfold expressionStatement
  mvcgen [hexpression]
  all_goals simp_all

omit hexpression in
@[spec]
theorem areStatements_importStatement :
    ⦃⌜True⌝⦄ importStatement ⦃⇓? found => ⌜AreStatements found⌝⦄ := by
  unfold importStatement
  mvcgen
  all_goals simp_all [Tree.IsStatement.importModules, Tree.IsStatement.importNames]

omit hexpression in
@[spec]
theorem areStatements_complete {statement : Parser (List Tree)}
    (hstatement : ⦃⌜True⌝⦄ statement ⦃⇓? found => ⌜AreStatements found⌝⦄) :
    ⦃⌜True⌝⦄ complete statement ⦃⇓? found => ⌜AreStatements found⌝⦄ := by
  unfold complete
  mvcgen [hstatement]
  simp_all

@[spec]
theorem areStatements_simpleStatement :
    ⦃⌜True⌝⦄ simpleStatement self ⦃⇓? found => ⌜AreStatements found⌝⦄ := by
  have hassigned := areStatements_expressionStatement hexpression
  have hwider : ∀ found, AreExpressions found → AreStatements found :=
    fun _ ↦ AreExpressions.areStatements
  have htype := triple_orElse
    (areStatements_complete (triple_mono hwider (areExpressions_typeStatement hexpression)))
    hassigned
  have hprint := triple_orElse (areStatements_complete hassigned)
    (triple_mono hwider (areExpressions_printStatement hexpression))
  have hexec := triple_orElse (areStatements_complete hassigned)
    (triple_mono hwider (areExpressions_execStatement hexpression))
  unfold simpleStatement
  mvcgen [hexpression, htype, hprint, hexec]
  all_goals simp_all

@[spec]
theorem areStatements_statementLine :
    ⦃⌜True⌝⦄ statementLine self ⦃⇓? found => ⌜AreStatements found⌝⦄ := by
  unfold statementLine
  mvcgen [hexpression, areStatements_repeatWhile]
  all_goals simp_all

/-! ### Blocks -/

omit hexpression in
@[spec]
theorem areStatements_block (level : Nat) {line : Parser (List Tree)}
    (hline : ⦃⌜True⌝⦄ line ⦃⇓? found => ⌜AreStatements found⌝⦄) :
    ⦃⌜True⌝⦄ block level line ⦃⇓? found => ⌜AreStatements found⌝⦄ := by
  unfold block
  mvcgen [hline, areStatements_repeatWhile]
  simp_all

omit hexpression in
@[spec]
theorem areStatements_indented (level : Nat) {line : Nat → Parser (List Tree)}
    (hline : ∀ inner, ⦃⌜True⌝⦄ line inner ⦃⇓? found => ⌜AreStatements found⌝⦄) :
    ⦃⌜True⌝⦄ indented level line ⦃⇓? found => ⌜AreStatements found⌝⦄ := by
  unfold indented
  mvcgen [hline]
  all_goals simp_all

variable (hstatement : ∀ level,
  ⦃⌜True⌝⦄ self (.statement level) ⦃⇓? found => ⌜AreStatements found.parts⌝⦄)

include hstatement

omit hexpression in
@[spec]
theorem areStatements_statementAt (level : Nat) :
    ⦃⌜True⌝⦄ statementAt self level ⦃⇓? found => ⌜AreStatements found⌝⦄ := by
  unfold statementAt
  mvcgen [hstatement]

@[spec]
theorem areStatements_suite (level : Nat) :
    ⦃⌜True⌝⦄ suite self level ⦃⇓? found => ⌜AreStatements found⌝⦄ := by
  unfold suite
  mvcgen [hexpression, hstatement]

@[spec]
theorem areStatements_optionalClause (level : Nat) (word : String) :
    ⦃⌜True⌝⦄ optionalClause self level word ⦃⇓? found => ⌜AreStatements found⌝⦄ := by
  unfold optionalClause
  mvcgen [hexpression, hstatement]
  all_goals simp_all

/-! ### Compound statements -/

@[spec]
theorem areStatements_conditional (level : Nat) :
    ⦃⌜True⌝⦄ conditional self level ⦃⇓? found => ⌜AreStatements found⌝⦄ := by
  unfold conditional
  mvcgen [hexpression, hstatement]
  all_goals simp_all

@[spec]
theorem areStatements_ifStatement (level : Nat) :
    ⦃⌜True⌝⦄ ifStatement self level ⦃⇓? found => ⌜AreStatements found⌝⦄ := by
  unfold ifStatement
  mvcgen [hexpression, hstatement, areStatements_repeatWhile]
  all_goals simp_all

@[spec]
theorem areStatements_whileStatement (level : Nat) :
    ⦃⌜True⌝⦄ whileStatement self level ⦃⇓? found => ⌜AreStatements found⌝⦄ := by
  unfold whileStatement
  mvcgen [hexpression, hstatement]
  all_goals simp_all

@[spec]
theorem areStatements_withStatement (level : Nat) :
    ⦃⌜True⌝⦄ withStatement self level ⦃⇓? found => ⌜AreStatements found⌝⦄ := by
  unfold withStatement
  mvcgen [hexpression, hstatement]
  all_goals simp_all

@[spec]
theorem areStatements_exceptClause (level : Nat) :
    ⦃⌜True⌝⦄ exceptClause self level ⦃⇓? found => ⌜AreStatements found⌝⦄ := by
  unfold exceptClause
  mvcgen [hexpression, hstatement]
  all_goals simp_all

@[spec]
theorem areStatements_tryStatement (level : Nat) :
    ⦃⌜True⌝⦄ tryStatement self level ⦃⇓? found => ⌜AreStatements found⌝⦄ := by
  unfold tryStatement
  mvcgen [hexpression, hstatement, areStatements_repeatWhile]
  all_goals simp_all

variable (hoperand : ⦃⌜True⌝⦄ self .operand ⦃⇓? found => ⌜AreExpressions found.parts⌝⦄)

include hoperand

@[spec]
theorem areStatements_forStatement (level : Nat) :
    ⦃⌜True⌝⦄ forStatement self level ⦃⇓? found => ⌜AreStatements found⌝⦄ := by
  unfold forStatement
  mvcgen [hexpression, hoperand, hstatement]
  all_goals simp_all

@[spec]
theorem areStatements_functionStatement (level : Nat) (start : Place) :
    ⦃⌜True⌝⦄ functionStatement self level start ⦃⇓? found => ⌜AreStatements found⌝⦄ := by
  unfold functionStatement
  mvcgen [hexpression, hoperand, hstatement]
  all_goals simp_all

@[spec]
theorem areStatements_classStatement (level : Nat) :
    ⦃⌜True⌝⦄ classStatement self level ⦃⇓? found => ⌜AreStatements found⌝⦄ := by
  unfold classStatement
  mvcgen [hexpression, hoperand, hstatement]
  all_goals simp_all

@[spec]
theorem areStatements_asyncStatement (level : Nat) :
    ⦃⌜True⌝⦄ asyncStatement self level ⦃⇓? found => ⌜AreStatements found⌝⦄ := by
  unfold asyncStatement
  mvcgen [hexpression, hoperand, hstatement]
  all_goals simp_all

@[spec]
theorem areStatements_definition (level : Nat) :
    ⦃⌜True⌝⦄ definition self level ⦃⇓? found => ⌜AreStatements found⌝⦄ := by
  unfold definition
  mvcgen [hexpression, hoperand, hstatement]
  all_goals simp_all

@[spec]
theorem areStatements_decorated (level : Nat) :
    ⦃⌜True⌝⦄ decorated self level ⦃⇓? found => ⌜AreStatements found⌝⦄ := by
  unfold decorated
  mvcgen [hexpression, hoperand, hstatement, areExpressions_repeatWhile]
  all_goals simp_all

/-! ### Matching -/

variable (hpattern : ⦃⌜True⌝⦄ self .pattern ⦃⇓? found => ⌜AreExpressions found.parts⌝⦄)

include hpattern

omit hexpression hstatement hoperand in
@[spec]
theorem areExpressions_patternsUntil (close : String) :
    ⦃⌜True⌝⦄ patternsUntil self close ⦃⇓? found => ⌜AreExpressions found⌝⦄ := by
  unfold patternsUntil
  mvcgen [hpattern]
  all_goals simp_all

omit hexpression hstatement hoperand in
@[spec]
theorem areExpressions_patternEntry :
    ⦃⌜True⌝⦄ patternEntry self ⦃⇓? found => ⌜AreExpressions found⌝⦄ := by
  unfold patternEntry
  mvcgen [hpattern]
  all_goals simp_all

omit hstatement hoperand in
@[spec]
theorem areExpressions_simplePattern :
    ⦃⌜True⌝⦄ simplePattern self ⦃⇓? found => ⌜AreExpressions found⌝⦄ := by
  unfold simplePattern
  mvcgen [hexpression, hpattern]
  all_goals simp_all

omit hstatement hoperand in
@[spec]
theorem areExpressions_pattern :
    ⦃⌜True⌝⦄ pattern self ⦃⇓? found => ⌜AreExpressions found.parts⌝⦄ := by
  unfold pattern
  mvcgen [hexpression, hpattern, areExpressions_repeatWhile]
  all_goals simp_all

omit hoperand in
@[spec]
theorem areStatements_caseClause (level : Nat) :
    ⦃⌜True⌝⦄ caseClause self level ⦃⇓? found => ⌜AreStatements found⌝⦄ := by
  unfold caseClause
  mvcgen [hexpression, hstatement, hpattern]
  all_goals simp_all

omit hoperand in
@[spec]
theorem areStatements_matchStatement (level : Nat) :
    ⦃⌜True⌝⦄ matchStatement self level ⦃⇓? found => ⌜AreStatements found⌝⦄ := by
  unfold matchStatement
  mvcgen [hexpression, hstatement, hpattern]
  all_goals simp_all

/-! ### All statements -/

@[spec]
theorem areStatements_statement (level : Nat) :
    ⦃⌜True⌝⦄ statement self level ⦃⇓? found => ⌜AreStatements found⌝⦄ := by
  have hmatch := triple_orElse
    (areStatements_matchStatement hexpression hstatement hpattern level)
    (areStatements_statementLine hexpression)
  have hasync := triple_orElse
    (areStatements_asyncStatement hexpression hstatement hoperand level)
    (areStatements_statementLine hexpression)
  unfold statement
  mvcgen [hexpression, hoperand, hstatement, hmatch, hasync]

end Grammar

/-! ### Programs -/

/-- What a rule is meant to find. -/
def Finds : Rule → List Tree → Prop
  | .statement _ => AreStatements
  | _ => AreExpressions

/-- The rules find what they should at any depth. -/
theorem finds_ofRule (depth : Nat) : ∀ rule : Rule,
    ⦃⌜True⌝⦄ ofRule depth rule ⦃⇓? found => ⌜Finds rule found.parts⌝⦄ := by
  induction depth with
  | zero => exact fun _ ↦ triple_mono (fun _ hfalse ↦ hfalse.elim) triple_failure
  | succ depth ih =>
    have hexpression : ⦃⌜True⌝⦄ ofRule depth .expression
        ⦃⇓? found => ⌜AreExpressions found.parts⌝⦄ := ih .expression
    have hoperand : ⦃⌜True⌝⦄ ofRule depth .operand
        ⦃⇓? found => ⌜AreExpressions found.parts⌝⦄ := ih .operand
    have hpattern : ⦃⌜True⌝⦄ ofRule depth .pattern
        ⦃⇓? found => ⌜AreExpressions found.parts⌝⦄ := ih .pattern
    have hstatement : ∀ level, ⦃⌜True⌝⦄ ofRule depth (.statement level)
        ⦃⇓? found => ⌜AreStatements found.parts⌝⦄ := fun level ↦ ih (.statement level)
    intro rule
    cases rule with
    | expression => exact areExpressions_expression hexpression hoperand
    | operand => exact areExpressions_operand hexpression hoperand
    | pattern => exact areExpressions_pattern hexpression hpattern
    | statement level =>
      unfold ofRule step
      mvcgen [hexpression, hoperand, hpattern, hstatement]

/-- A program is made of statements. -/
theorem areStatements_program (depth : Nat) :
    ⦃⌜True⌝⦄ program depth ⦃⇓? found => ⌜AreStatements found⌝⦄ := by
  have hstatement : ∀ level, ⦃⌜True⌝⦄ ofRule depth (.statement level)
      ⦃⇓? found => ⌜AreStatements found.parts⌝⦄ := fun level ↦ finds_ofRule depth (.statement level)
  unfold program
  mvcgen [hstatement, areStatements_repeatWhile]
  simp_all

end SymbolGraph.Python.Parser

namespace SymbolGraph.Python

/-- The syntax tree of a program is made of statements. -/
theorem areStatements_of_parse? {source : String} {program : List Tree}
    (hparse : parse? source = some program) : AreStatements program := by
  obtain ⟨⟨found, rest⟩, hrun, rfl⟩ := Option.map_eq_some_iff.mp hparse
  exact Parser.triple_iff.mp (Parser.areStatements_program _) _ _ _ hrun

end SymbolGraph.Python
