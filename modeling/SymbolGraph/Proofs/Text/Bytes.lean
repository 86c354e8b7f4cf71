import Mathlib.Data.List.Infix
import SymbolGraph.Text.Bytes
import SymbolGraph.Text.Words

/-!
# Texts by their bytes

A text is known by its bytes (`bytes_injective`), and it ends with another one when its bytes end
with those of the other (`bytes_suffix_iff`), since no character begins inside another.

The bytes of a text are those of its characters (`byteSize_toList`). A byte position that a text can
be sliced at is the size of a prefix (`before?_eq_some_iff`), and among the prefixes the size says
which one is longer (`prefix_of_byteSize_le`). So a text that is cut to a limit is its longest
prefix that fits (`isCut_truncate`), and the slice that is taken for it is always there
(`before?_boundary_eq_some`).
-/

set_option autoImplicit false
set_option relaxedAutoImplicit false

namespace SymbolGraph.Text

/-! ### Bytes -/

section Bytes

variable {text ending : List Char} {byte : UInt8}

theorem bytes_injective : Function.Injective bytes := by
  intro first second hbytes
  have hencoded : first.utf8Encode = second.utf8Encode := congrArg List.toByteArray hbytes
  rw [← String.toByteArray_ofList, ← String.toByteArray_ofList, String.toByteArray_inj] at hencoded
  exact String.ofList_injective hencoded

/-- Nothing stands before a first byte in the encoding of a character. -/
theorem eq_nil_of_isUTF8FirstByte {character : Char} {before after : List UInt8}
    (hfirst : byte.IsUTF8FirstByte)
    (hcharacter : String.utf8EncodeChar character = before ++ byte :: after) : before = [] := by
  have hplace : before.length < (String.utf8EncodeChar character).length := by
    rw [hcharacter, List.length_append, List.length_cons]
    omega
  have hbyte : (String.utf8EncodeChar character)[before.length] = byte := by
    simp only [hcharacter, List.getElem_append_right (Nat.le_refl _), Nat.sub_self,
      List.getElem_cons_zero]
  rw [← hbyte, UInt8.isUTF8FirstByte_getElem_utf8EncodeChar] at hfirst
  exact List.eq_nil_of_length_eq_zero hfirst

/-- The bytes of a text begin with the first byte of a character. -/
theorem isUTF8FirstByte_of_bytes {others : List UInt8} (hbytes : bytes text = byte :: others) :
    byte.IsUTF8FirstByte := by
  cases text with
  | nil => cases hbytes
  | cons character rest =>
    have hfirst := UInt8.isUTF8FirstByte_getElem_zero_utf8EncodeChar (c := character)
    obtain ⟨head, later, hcharacter⟩ :=
      List.exists_cons_of_ne_nil (String.utf8EncodeChar_ne_nil (c := character))
    rw [bytes_cons, hcharacter, List.cons_append] at hbytes
    simpa only [hcharacter, List.getElem_cons_zero, (List.cons.inj hbytes).1] using hfirst

/-- Texts end as their bytes do. -/
theorem bytes_suffix_iff : bytes ending <:+ bytes text ↔ ending <:+ text := by
  constructor
  · intro hsuffix
    induction text with
    | nil =>
      have hnone : bytes ending = bytes [] := List.suffix_nil.mp hsuffix
      rw [bytes_injective hnone]
    | cons character rest ih =>
      obtain ⟨before, hbytes⟩ := hsuffix
      rw [bytes_cons, List.append_eq_append_iff] at hbytes
      -- The ending starts in the first character or behind it; inside it is no first byte.
      rcases hbytes with ⟨inside, hcharacter, hending⟩ | ⟨inside, -, hrest⟩
      · cases inside with
        | nil =>
          rw [bytes_injective hending]
          exact List.suffix_cons character rest
        | cons byte others =>
          have hbefore := eq_nil_of_isUTF8FirstByte (isUTF8FirstByte_of_bytes hending) hcharacter
          rw [hbefore, List.nil_append] at hcharacter
          rw [← hcharacter, ← bytes_cons] at hending
          rw [bytes_injective hending]
      · exact (ih ⟨inside, hrest.symm⟩).trans (List.suffix_cons character rest)
  · rintro ⟨before, rfl⟩
    exact ⟨bytes before, (bytes_append before ending).symm⟩

end Bytes

/-! ### Sizes -/

section Size

variable {first second text : List Char}

/-- The size of a text in UTF-8 bytes. -/
def byteSize : List Char → Nat
  | [] => 0
  | character :: rest => character.utf8Size + byteSize rest

@[simp] theorem byteSize_append (first second : List Char) :
    byteSize (first ++ second) = byteSize first + byteSize second := by
  induction first with
  | nil => exact (Nat.zero_add _).symm
  | cons character rest ih => rw [List.cons_append, byteSize, ih, byteSize, Nat.add_assoc]

theorem byteSize_eq_zero_iff : byteSize text = 0 ↔ text = [] := by
  cases text with
  | nil => exact iff_of_true rfl rfl
  | cons character rest =>
    have hpos := character.utf8Size_pos
    refine iff_of_false (fun hzero ↦ ?_) (List.cons_ne_nil character rest)
    rw [byteSize] at hzero
    omega

theorem utf8ByteSize_ofList (text : List Char) :
    (String.ofList text).utf8ByteSize = byteSize text := by
  induction text with
  | nil => rfl
  | cons character rest ih =>
    have hparts : String.ofList (character :: rest) =
        String.singleton character ++ String.ofList rest := by
      refine String.toList_inj.mp ?_
      simp
    rw [hparts, String.utf8ByteSize_append, String.utf8ByteSize_singleton, ih, byteSize]

theorem byteSize_toList (text : String) : byteSize text.toList = text.utf8ByteSize := by
  rw [← utf8ByteSize_ofList, String.ofList_toList]

theorem byteSize_prefix_le (hfront : first <+: second) : byteSize first ≤ byteSize second := by
  obtain ⟨rest, rfl⟩ := hfront
  rw [byteSize_append]
  exact Nat.le_add_right _ _

/-- Of two prefixes of a text, the one with fewer bytes is a prefix of the other. -/
theorem prefix_of_byteSize_le (hfirst : first <+: text) (hsecond : second <+: text)
    (hle : byteSize first ≤ byteSize second) : first <+: second := by
  rcases List.prefix_or_prefix_of_prefix hfirst hsecond with hshort | hlong
  · exact hshort
  · obtain ⟨rest, rfl⟩ := hlong
    have hnone : byteSize rest = 0 := by
      rw [byteSize_append] at hle
      omega
    rw [byteSize_eq_zero_iff.mp hnone, List.append_nil]

end Size

/-! ### Slices -/

section Slice

variable {text : List Char} {position other : Nat}

/-- What stands before a byte position is the prefix of that size. -/
theorem before?_eq_some_iff {front : List Char} :
    before? text position = some front ↔ front <+: text ∧ byteSize front = position := by
  induction text generalizing position front with
  | nil =>
    rw [List.prefix_nil]
    cases position with
    | zero =>
      rw [before?, Option.some_inj, byteSize_eq_zero_iff, and_self]
      exact eq_comm
    | succ position =>
      refine iff_of_false (Option.some_ne_none front).symm ?_
      rintro ⟨rfl, hsize⟩
      exact Nat.succ_ne_zero position hsize.symm
  | cons character rest ih =>
    have hpos := character.utf8Size_pos
    cases position with
    | zero =>
      rw [before?, Option.some_inj, byteSize_eq_zero_iff]
      exact ⟨fun hnil ↦ hnil ▸ ⟨List.nil_prefix, rfl⟩, fun hsize ↦ hsize.2.symm⟩
    | succ position =>
      cases front with
      | nil =>
        refine iff_of_false ?_ fun hsize ↦ Nat.succ_ne_zero position hsize.2.symm
        unfold before?
        split <;> simp
      | cons head inner =>
        rw [before?, List.cons_prefix_cons, byteSize]
        by_cases hfits : character.utf8Size ≤ position + 1
        · rw [if_pos hfits, Option.map_eq_some_iff]
          constructor
          · rintro ⟨inner, hinner, heq⟩
            obtain ⟨rfl, rfl⟩ := List.cons.inj heq
            obtain ⟨hrest, hsize⟩ := ih.mp hinner
            exact ⟨⟨rfl, hrest⟩, by omega⟩
          · rintro ⟨⟨rfl, hrest⟩, hsize⟩
            exact ⟨inner, ih.mpr ⟨hrest, by omega⟩, rfl⟩
        · rw [if_neg hfits]
          refine iff_of_false (Option.some_ne_none _).symm ?_
          rintro ⟨⟨rfl, -⟩, hsize⟩
          omega

theorem boundary_le (text : List Char) (position : Nat) : boundary text position ≤ position := by
  induction position with
  | zero => exact Nat.le_refl 0
  | succ position ih =>
    unfold boundary
    split
    · exact Nat.le_refl _
    · exact Nat.le_succ_of_le ih

/-- The search stops at the first boundary it meets. -/
theorem le_boundary (hother : (before? text other).isSome = true) (hle : other ≤ position) :
    other ≤ boundary text position := by
  induction position with
  | zero => exact hle
  | succ position ih =>
    unfold boundary
    split
    · exact hle
    · rename_i hinside
      refine ih (Nat.le_of_lt_succ (lt_of_le_of_ne hle ?_))
      rintro rfl
      exact hinside hother

end Slice

/-! ### Cuts -/

/-- The text is cut to its longest prefix of whole characters that fits into the limit. -/
structure IsCut (text : String) (limit : Nat) (cut : String) : Prop where
  isPrefix : cut.toList <+: text.toList
  fits : cut.utf8ByteSize ≤ limit
  longest : ∀ other : String, other.toList <+: text.toList → other.utf8ByteSize ≤ limit →
    other.toList <+: cut.toList

section Cut

variable (text : String) (limit : Nat)

/-- The slice that a text is cut to is there, and it is the result. -/
theorem before?_boundary_eq_some :
    before? text.toList (boundary text.toList (min limit text.utf8ByteSize)) =
      some (truncate text limit).toList := by
  unfold truncate
  split
  · rename_i hfits
    have hwhole : before? text.toList text.utf8ByteSize = some text.toList :=
      before?_eq_some_iff.mpr ⟨List.prefix_refl _, byteSize_toList text⟩
    have hend : boundary text.toList text.utf8ByteSize = text.utf8ByteSize :=
      Nat.le_antisymm (boundary_le _ _)
        (le_boundary (Option.isSome_of_eq_some hwhole) (Nat.le_refl _))
    rw [Nat.min_eq_right hfits, hend, hwhole]
  · rw [String.toList_ofList]
    exact (Option.some_get _).symm

theorem isCut_truncate : IsCut text limit (truncate text limit) := by
  obtain ⟨hfront, hsize⟩ := before?_eq_some_iff.mp (before?_boundary_eq_some text limit)
  have hfits := boundary_le text.toList (min limit text.utf8ByteSize)
  refine ⟨hfront, ?_, fun other hother hlimit ↦ ?_⟩
  · rw [← byteSize_toList, hsize]
    exact hfits.trans (Nat.min_le_left _ _)
  · have hslice : before? text.toList (byteSize other.toList) = some other.toList :=
      before?_eq_some_iff.mpr ⟨hother, rfl⟩
    have hle : byteSize other.toList ≤ min limit text.utf8ByteSize := by
      rw [Nat.le_min, byteSize_toList, ← byteSize_toList text, ← byteSize_toList other]
      exact ⟨byteSize_toList other ▸ hlimit, byteSize_prefix_le hother⟩
    refine prefix_of_byteSize_le hother hfront ?_
    rw [hsize]
    exact le_boundary (Option.isSome_of_eq_some hslice) hle

end Cut

end SymbolGraph.Text
