import SymbolGraph.Proofs.Python.Syntax

/-!
# Python expressions hold expressions

Each parser of the grammar of expressions finds the parts of an expression, provided that the rules
nested in it do.
-/

set_option autoImplicit false
set_option relaxedAutoImplicit false
set_option mvcgen.warning false

namespace SymbolGraph.Python.Parser

open Std.Do
open Text (Place)

section Grammar

variable {self : Rule → Parser Operand}
  (hexpression : ⦃⌜True⌝⦄ self .expression ⦃⇓? found => ⌜AreExpressions found.parts⌝⦄)

include hexpression

/-! ### Lists and strings -/

@[spec]
theorem areExpressions_expressionList :
    ⦃⌜True⌝⦄ expressionList self ⦃⇓? found => ⌜AreExpressions found.parts⌝⦄ := by
  unfold expressionList
  mvcgen [hexpression]
  all_goals simp_all

@[spec]
theorem areExpressions_yielding :
    ⦃⌜True⌝⦄ yielding self ⦃⇓? found => ⌜AreExpressions found.parts⌝⦄ := by
  unfold yielding
  mvcgen [hexpression]
  all_goals simp_all

@[spec]
theorem areExpressions_yieldOrList :
    ⦃⌜True⌝⦄ yieldOrList self ⦃⇓? found => ⌜AreExpressions found.parts⌝⦄ := by
  unfold yieldOrList
  mvcgen [hexpression]

@[spec]
theorem areExpressions_element :
    ⦃⌜True⌝⦄ element self ⦃⇓? found => ⌜AreExpressions found.parts⌝⦄ := by
  unfold element
  mvcgen [hexpression]

@[spec]
theorem areExpressions_fields (count : Nat) :
    ⦃⌜True⌝⦄ fields self count ⦃⇓? found => ⌜AreExpressions found⌝⦄ := by
  induction count with
  | zero =>
    unfold fields
    mvcgen
    simp
  | succ count ih =>
    unfold fields
    mvcgen [hexpression, ih]
    all_goals simp_all

@[spec]
theorem areExpressions_string :
    ⦃⌜True⌝⦄ string self ⦃⇓? found => ⌜AreExpressions found⌝⦄ := by
  unfold string
  mvcgen [hexpression]
  all_goals simp_all

@[spec]
theorem areExpressions_strings :
    ⦃⌜True⌝⦄ strings self ⦃⇓? found => ⌜AreExpressions found⌝⦄ := by
  unfold strings
  mvcgen [hexpression, areExpressions_repeatWhile]
  all_goals simp_all

omit hexpression in
/-- An identifier has no parts. -/
@[spec]
theorem areExpressions_name : ⦃⌜True⌝⦄ name ⦃⇓? found => ⌜AreExpressions found.parts⌝⦄ := by
  unfold name
  mvcgen
  · exact areExpressions_nil
  · exact areExpressions_nil

/-! ### Comprehensions -/

variable (hoperand : ⦃⌜True⌝⦄ self .operand ⦃⇓? found => ⌜AreExpressions found.parts⌝⦄)

include hoperand

omit hexpression in
@[spec]
theorem areExpressions_target :
    ⦃⌜True⌝⦄ target self ⦃⇓? found => ⌜AreExpressions found.parts⌝⦄ := by
  unfold target
  mvcgen [hoperand]
  · rename_i read operand _ _ hread
    have hparts : operand.parts = read.parts := by
      unfold operand
      split
      · rfl
      · rfl
    rw [hparts]
    exact hread
  · exact fun _ hfalse ↦ hfalse.elim

omit hexpression in
@[spec]
theorem areExpressions_targets :
    ⦃⌜True⌝⦄ targets self ⦃⇓? found => ⌜AreExpressions found⌝⦄ := by
  unfold targets
  mvcgen [hoperand]
  all_goals simp_all

@[spec]
theorem areExpressions_clause :
    ⦃⌜True⌝⦄ clause self ⦃⇓? found => ⌜AreExpressions found⌝⦄ := by
  unfold clause
  mvcgen [hexpression, hoperand]
  all_goals simp_all

@[spec]
theorem areExpressions_clauses :
    ⦃⌜True⌝⦄ clauses self ⦃⇓? found => ⌜AreExpressions found⌝⦄ := by
  unfold clauses
  mvcgen [hexpression, hoperand, areExpressions_repeatWhile]
  all_goals simp_all

/-! ### Brackets -/

@[spec]
theorem areExpressions_elementsAfter (close : String) {first : Operand}
    (hfirst : AreExpressions first.parts) :
    ⦃⌜True⌝⦄ elementsAfter self close first ⦃⇓? found => ⌜AreExpressions found.parts⌝⦄ := by
  unfold elementsAfter
  mvcgen [hexpression, hoperand]
  all_goals simp_all

@[spec]
theorem areExpressions_enclosed (opening close : String) :
    ⦃⌜True⌝⦄ enclosed self opening close ⦃⇓? found => ⌜AreExpressions found.parts⌝⦄ := by
  unfold enclosed
  mvcgen [hexpression, hoperand]
  all_goals simp_all

omit hoperand in
@[spec]
theorem areExpressions_entry :
    ⦃⌜True⌝⦄ entry self ⦃⇓? found => ⌜AreExpressions found⌝⦄ := by
  unfold entry
  mvcgen [hexpression]
  all_goals simp_all

@[spec]
theorem areExpressions_entriesAfter {first : List Tree} (hfirst : AreExpressions first) :
    ⦃⌜True⌝⦄ entriesAfter self first ⦃⇓? found => ⌜AreExpressions found.parts⌝⦄ := by
  unfold entriesAfter
  mvcgen [hexpression, hoperand]
  all_goals simp_all

@[spec]
theorem areExpressions_braces :
    ⦃⌜True⌝⦄ braces self ⦃⇓? found => ⌜AreExpressions found.parts⌝⦄ := by
  unfold braces
  mvcgen [hexpression, hoperand]
  all_goals simp_all

@[spec]
theorem areExpressions_atom :
    ⦃⌜True⌝⦄ atom self ⦃⇓? found => ⌜AreExpressions found.parts⌝⦄ := by
  unfold atom
  mvcgen [hexpression, hoperand]
  all_goals simp_all

/-! ### Attributes, subscripts and calls -/

omit hoperand in
@[spec]
theorem areExpressions_argument :
    ⦃⌜True⌝⦄ argument self ⦃⇓? found => ⌜AreExpressions found⌝⦄ := by
  unfold argument
  mvcgen [hexpression]
  all_goals simp_all

@[spec]
theorem areExpressions_arguments :
    ⦃⌜True⌝⦄ arguments self ⦃⇓? found => ⌜AreExpressions found⌝⦄ := by
  unfold arguments
  mvcgen [hexpression, hoperand]
  all_goals simp_all

omit hoperand in
@[spec]
theorem areExpressions_subscriptItem :
    ⦃⌜True⌝⦄ subscriptItem self ⦃⇓? found => ⌜AreExpressions found⌝⦄ := by
  unfold subscriptItem
  mvcgen [hexpression]
  all_goals simp_all

@[spec]
theorem areExpressions_suffixes (start : Place) (count : Nat) {operand : Operand}
    (hfirst : AreExpressions operand.parts) :
    ⦃⌜True⌝⦄ suffixes self start count operand ⦃⇓? found => ⌜AreExpressions found.parts⌝⦄ := by
  induction count generalizing operand with
  | zero =>
    unfold suffixes
    mvcgen
  | succ count ih =>
    unfold suffixes
    mvcgen [hexpression, hoperand, ih]
    all_goals simp_all

@[spec]
theorem areExpressions_operandFrom (start : Place) :
    ⦃⌜True⌝⦄ operandFrom self start ⦃⇓? found => ⌜AreExpressions found.parts⌝⦄ := by
  unfold operandFrom
  mvcgen [hexpression, hoperand]
  all_goals simp_all

@[spec]
theorem areExpressions_operand :
    ⦃⌜True⌝⦄ operand self ⦃⇓? found => ⌜AreExpressions found.parts⌝⦄ := by
  unfold operand
  mvcgen [hexpression, hoperand]

/-! ### Chains -/

@[spec]
theorem areExpressions_prefixed :
    ⦃⌜True⌝⦄ prefixed self ⦃⇓? found => ⌜AreExpressions found.parts⌝⦄ := by
  unfold prefixed
  mvcgen [hexpression, hoperand]
  all_goals simp_all

@[spec]
theorem areExpressions_parameter (annotated : Bool) :
    ⦃⌜True⌝⦄ parameter self annotated ⦃⇓? found => ⌜AreExpressions found⌝⦄ := by
  unfold parameter
  mvcgen [hexpression, hoperand]
  all_goals simp_all

@[spec]
theorem areExpressions_lambda :
    ⦃⌜True⌝⦄ lambda self ⦃⇓? found => ⌜AreExpressions found.parts⌝⦄ := by
  unfold lambda
  mvcgen [hexpression, hoperand]
  all_goals simp_all

@[spec]
theorem areExpressions_negated :
    ⦃⌜True⌝⦄ negated self ⦃⇓? found => ⌜AreExpressions found.parts⌝⦄ := by
  unfold negated
  mvcgen [hexpression, hoperand]
  all_goals simp_all

@[spec]
theorem areExpressions_chainAfter (count : Nat) {operand : Operand}
    (hfirst : AreExpressions operand.parts) :
    ⦃⌜True⌝⦄ chainAfter self count operand ⦃⇓? found => ⌜AreExpressions found.parts⌝⦄ := by
  induction count generalizing operand with
  | zero =>
    unfold chainAfter
    mvcgen
  | succ count ih =>
    unfold chainAfter
    mvcgen [hexpression, hoperand, ih]
    all_goals simp_all

@[spec]
theorem areExpressions_chain :
    ⦃⌜True⌝⦄ chain self ⦃⇓? found => ⌜AreExpressions found.parts⌝⦄ := by
  unfold chain
  mvcgen [hexpression, hoperand]
  all_goals simp_all

omit hoperand in
@[spec]
theorem areExpressions_alternative {operand : Operand} (hfirst : AreExpressions operand.parts) :
    ⦃⌜True⌝⦄ alternative self operand ⦃⇓? found => ⌜AreExpressions found.parts⌝⦄ := by
  unfold alternative
  refine triple_orElse ?_ ?_
  · mvcgen [hexpression]
    simp_all
  · mvcgen

@[spec]
theorem areExpressions_expression :
    ⦃⌜True⌝⦄ expression self ⦃⇓? found => ⌜AreExpressions found.parts⌝⦄ := by
  unfold expression
  mvcgen [hexpression, hoperand]
  all_goals simp_all

end Grammar

end SymbolGraph.Python.Parser
