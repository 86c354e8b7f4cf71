import SymbolGraph.Text.Decimal

/-!
# Printed numbers are read again

A number that the given number of bits can hold is read from its decimal digits
(`signed?_toString`).
-/

set_option autoImplicit false
set_option relaxedAutoImplicit false

namespace SymbolGraph.Text

/-- A signed number of so many bits can hold the value. -/
def Holds (bits : Nat) (number : Int) : Prop :=
  -Nat.pow 2 (bits - 1) ≤ number ∧ number < Nat.pow 2 (bits - 1)

theorem decimal?_toDigits (size : Nat) : decimal? (Nat.toDigits 10 size) = some size := by
  have hdigits : (Nat.toDigits 10 size).all Char.isDigit = true :=
    List.all_eq_true.mpr fun _ hmem ↦ Nat.isDigit_of_mem_toDigits (by decide) (by decide) hmem
  have hvalue : digitsValue (Nat.toDigits 10 size) = size :=
    Nat.ofDigitChars_toDigits (by decide) (by decide)
  rw [decimal?, hdigits, hvalue, List.isEmpty_eq_false_iff.mpr Nat.toDigits_ne_nil]
  rfl

/-- The digits of a number do not begin with a sign. -/
theorem toDigits_ne_cons {size : Nat} {sign : Char} (hsign : sign.isDigit = false)
    (rest : List Char) : Nat.toDigits 10 size ≠ sign :: rest := by
  intro heq
  have hdigit : sign.isDigit = true :=
    Nat.isDigit_of_mem_toDigits (by decide) (by decide) (heq ▸ List.mem_cons_self)
  rw [hsign] at hdigit
  cases hdigit

theorem signed?_toDigits {bits size : Nat} (hholds : Holds bits size) :
    signed? bits (Nat.toDigits 10 size) = some (size : Int) := by
  unfold signed?
  split
  · rename_i heq
    exact absurd heq (toDigits_ne_cons rfl _)
  · rename_i heq
    exact absurd heq (toDigits_ne_cons rfl _)
  · rw [decimal?_toDigits]
    exact Option.filter_eq_some_iff.mpr ⟨rfl, decide_eq_true hholds⟩

theorem signed?_minus {bits size : Nat} (hholds : Holds bits (-size)) :
    signed? bits ('-' :: Nat.toDigits 10 size) = some (-(size : Int)) := by
  rw [signed?, decimal?_toDigits]
  exact Option.filter_eq_some_iff.mpr ⟨rfl, decide_eq_true hholds⟩

/-- A number is read as it is printed. -/
theorem signed?_toString {bits : Nat} {number : Int} (hholds : Holds bits number) :
    signed? bits (toString number).toList = some number := by
  rw [Int.toString_eq_repr, Int.repr_eq_if]
  split
  · rename_i hnonneg
    have hsize : (number.toNat : Int) = number := Int.toNat_of_nonneg hnonneg
    rw [Nat.toList_repr, signed?_toDigits (hsize.symm ▸ hholds), hsize]
  · rename_i hnegative
    have hsize : -((-number).toNat : Int) = number := by omega
    rw [String.toList_append, Nat.toList_repr]
    exact (signed?_minus (hsize.symm ▸ hholds)).trans (congrArg some hsize)

/-- The characters of a printed number are digits, but for the sign. -/
theorem isDigit_of_mem_toString {number : Int} {character : Char}
    (hmem : character ∈ (toString number).toList) : character.isDigit = true ∨ character = '-' := by
  rw [Int.toString_eq_repr, Int.repr_eq_if] at hmem
  split at hmem
  · rw [Nat.toList_repr] at hmem
    exact .inl (Nat.isDigit_of_mem_toDigits (by decide) (by decide) hmem)
  · rw [String.toList_append, Nat.toList_repr] at hmem
    rcases List.mem_append.mp hmem with hmem | hmem
    · exact .inr (List.mem_singleton.mp hmem)
    · exact .inl (Nat.isDigit_of_mem_toDigits (by decide) (by decide) hmem)

end SymbolGraph.Text
