import SymbolGraph.Proofs.Text.Bytes
import SymbolGraph.Proofs.Text.Split

/-!
# Bytes shown as a text

Bytes are read from left to right: a character where one begins, and elsewhere a replacement for
the bytes that are given up (`IsShownAs`, `isShownAs_lossy`). The bytes of a text are shown as that
text (`lossy_bytes`), and what is shown without a replacement is what the bytes say
(`bytes_lossy`). With replacements, different bytes may be shown alike, but every other character
that is shown is there (`encode_inside_of_mem_lossy`).

The bytes of a text are cut where the text is cut, when the separator is a single byte
(`pieces_bytes`).
-/

set_option autoImplicit false
set_option relaxedAutoImplicit false

namespace SymbolGraph.Text

variable {raw rest : List UInt8} {text : List Char} {character : Char}

/-! ### The first character -/

/-- Bytes begin with a character when they begin with its encoding. -/
theorem decodeFirst?_eq_some_iff :
    decodeFirst? raw = some character ↔ String.utf8EncodeChar character <+: raw := by
  have hsize : (String.utf8EncodeChar character).length ≤ 4 := by
    rw [String.length_utf8EncodeChar]
    exact character.utf8Size_le_four
  constructor
  · intro hdecode
    have hbytes := String.toByteArray_utf8EncodeChar_of_utf8DecodeChar?_eq_some hdecode
    have hlist : String.utf8EncodeChar character = (raw.take 4).take character.utf8Size := by
      have hdata := congrArg (fun array ↦ array.data.toList) hbytes
      simpa using hdata
    rw [hlist]
    exact (List.take_prefix _ _).trans (List.take_prefix _ _)
  · intro hfront
    obtain ⟨later, hlater⟩ := List.prefix_take_iff.mpr ⟨hfront, hsize⟩
    rw [decodeFirst?, ← hlater, List.toByteArray_append]
    exact ByteArray.utf8DecodeChar?_utf8EncodeChar_append

theorem decodeFirst?_encode (character : Char) (rest : List UInt8) :
    decodeFirst? (String.utf8EncodeChar character ++ rest) = some character :=
  decodeFirst?_eq_some_iff.mpr (List.prefix_append _ _)

/-! ### Reading from left to right -/

theorem faultLength_pos (raw : List UInt8) : 0 < faultLength raw := by
  unfold faultLength
  split
  · split
    · exact Nat.one_pos
    · split
      · exact Nat.succ_pos 2
      · exact Nat.succ_pos 1
  · split
    · exact Nat.succ_pos 1
    · exact Nat.one_pos
  · exact Nat.one_pos

/-- Bytes that are passed over are not shown. -/
theorem lossyBehind_eq (passed : Nat) (raw : List UInt8) :
    lossyBehind passed raw = lossy (raw.drop passed) := by
  induction raw generalizing passed with
  | nil => rw [List.drop_nil, lossy, lossyBehind, lossyBehind]
  | cons first rest ih =>
    cases passed with
    | zero => rfl
    | succ passed => rw [lossyBehind, ih, List.drop_succ_cons]

/-- The bytes are shown as the text, character by character. Bytes that are given up are at least
one, and no character begins with them. -/
inductive IsShownAs : List UInt8 → List Char → Prop
  | nothing : IsShownAs [] []
  | character {raw : List UInt8} {text : List Char} (character : Char)
      (hrest : IsShownAs raw text) :
      IsShownAs (String.utf8EncodeChar character ++ raw) (character :: text)
  | fault {given raw : List UInt8} {text : List Char} (hgiven : given ≠ [])
      (hnone : decodeFirst? (given ++ raw) = none) (hrest : IsShownAs raw text) :
      IsShownAs (given ++ raw) (replacement :: text)

theorem lossy_encode_append (character : Char) (rest : List UInt8) :
    lossy (String.utf8EncodeChar character ++ rest) = character :: lossy rest := by
  obtain ⟨first, others, hencoded⟩ :=
    List.exists_cons_of_ne_nil (String.utf8EncodeChar_ne_nil (c := character))
  have hdecode := decodeFirst?_encode character rest
  have hlength := String.length_utf8EncodeChar character
  rw [hencoded] at hdecode hlength ⊢
  rw [List.cons_append] at hdecode ⊢
  have hothers : character.utf8Size - 1 = others.length := by
    rw [← hlength, List.length_cons, Nat.add_sub_cancel]
  rw [lossy, lossyBehind, hdecode]
  dsimp only
  rw [lossyBehind_eq, hothers, List.drop_left]

theorem lossy_of_decodeFirst?_eq_none (hne : raw ≠ []) (hnone : decodeFirst? raw = none) :
    lossy raw = replacement :: lossy (raw.drop (faultLength raw)) := by
  obtain ⟨first, rest, rfl⟩ := List.exists_cons_of_ne_nil hne
  obtain ⟨others, hlength⟩ := Nat.exists_eq_add_one.mpr (faultLength_pos (first :: rest))
  rw [lossy, lossyBehind, hnone]
  dsimp only
  rw [lossyBehind_eq, hlength, List.drop_succ_cons, Nat.add_sub_cancel]

/-- The text that bytes are shown as is read off them. -/
theorem isShownAs_lossy (raw : List UInt8) : IsShownAs raw (lossy raw) := by
  induction hlength : raw.length using Nat.strongRecOn generalizing raw with
  | ind length ih =>
    by_cases hempty : raw = []
    · subst hempty
      exact .nothing
    · cases hdecode : decodeFirst? raw with
      | some character =>
        obtain ⟨rest, rfl⟩ := decodeFirst?_eq_some_iff.mp hdecode
        rw [lossy_encode_append]
        refine .character character (ih rest.length ?_ rest rfl)
        have hpos := List.length_pos_of_ne_nil (String.utf8EncodeChar_ne_nil (c := character))
        rw [← hlength, List.length_append]
        omega
      | none =>
        have hpos := faultLength_pos raw
        have hraw := List.length_pos_of_ne_nil hempty
        have hgiven : raw.take (faultLength raw) ≠ [] := by
          refine List.ne_nil_of_length_pos ?_
          rw [List.length_take]
          omega
        have hrest :
            IsShownAs (raw.drop (faultLength raw)) (lossy (raw.drop (faultLength raw))) := by
          refine ih _ ?_ _ rfl
          rw [← hlength, List.length_drop]
          omega
        have hwhole : decodeFirst?
            (raw.take (faultLength raw) ++ raw.drop (faultLength raw)) = none := by
          rwa [List.take_append_drop]
        have hshown := IsShownAs.fault hgiven hwhole hrest
        rwa [List.take_append_drop, ← lossy_of_decodeFirst?_eq_none hempty hdecode] at hshown

/-! ### What is shown -/

/-- The bytes of a text are shown as the text. -/
theorem lossy_bytes (text : List Char) : lossy (bytes text) = text := by
  induction text with
  | nil => rfl
  | cons character rest ih => rw [bytes_cons, lossy_encode_append, ih]

theorem IsShownAs.bytes_eq (hshown : IsShownAs raw text) (hnone : replacement ∉ text) :
    bytes text = raw := by
  induction hshown with
  | nothing => rfl
  | character character _ ih =>
    rw [bytes_cons, ih fun hmem ↦ hnone (List.mem_cons_of_mem character hmem)]
  | fault => exact absurd List.mem_cons_self hnone

/-- Bytes that are shown without a replacement are those of the text that is shown. -/
theorem bytes_lossy (hnone : replacement ∉ lossy raw) : bytes (lossy raw) = raw :=
  (isShownAs_lossy raw).bytes_eq hnone

/-- Only its own bytes are shown as a text without a replacement. -/
theorem lossy_eq_iff (hnone : replacement ∉ text) : lossy raw = text ↔ raw = bytes text := by
  constructor
  · rintro rfl
    exact (bytes_lossy hnone).symm
  · rintro rfl
    exact lossy_bytes text

theorem IsShownAs.encode_inside (hshown : IsShownAs raw text) (hmem : character ∈ text)
    (hother : character ≠ replacement) : String.utf8EncodeChar character <:+: raw := by
  induction hshown with
  | nothing => cases hmem
  | character first _ ih =>
    rcases List.mem_cons.mp hmem with rfl | hrest
    · exact (List.prefix_append _ _).isInfix
    · exact (ih hrest).trans (List.suffix_append _ _).isInfix
  | fault _ _ _ ih =>
    have hrest := (List.mem_cons.mp hmem).resolve_left hother
    exact (ih hrest).trans (List.suffix_append _ _).isInfix

/-- A character that is shown and is no replacement is there. -/
theorem encode_inside_of_mem_lossy (hmem : character ∈ lossy raw)
    (hother : character ≠ replacement) : String.utf8EncodeChar character <:+: raw :=
  (isShownAs_lossy raw).encode_inside hmem hother

/-! ### Cutting the bytes of a text -/

section Pieces

variable {separator : Char} {byte : UInt8}

theorem bytes_singleton (hseparator : String.utf8EncodeChar separator = [byte]) :
    bytes [separator] = [byte] := by
  rw [bytes_cons, hseparator]
  rfl

/-- A character of one byte is the only one with this byte in its encoding. -/
theorem eq_of_mem_encode (hseparator : String.utf8EncodeChar separator = [byte])
    (hmem : byte ∈ String.utf8EncodeChar character) : character = separator := by
  obtain ⟨before, after, hcharacter⟩ := List.append_of_mem hmem
  have hfirst : byte.IsUTF8FirstByte := isUTF8FirstByte_of_bytes (bytes_singleton hseparator)
  rw [eq_nil_of_isUTF8FirstByte hfirst hcharacter, List.nil_append] at hcharacter
  have hdecode := decodeFirst?_encode separator after
  rw [hseparator, List.singleton_append, ← hcharacter,
    ← List.append_nil (String.utf8EncodeChar character), decodeFirst?_encode] at hdecode
  exact Option.some.inj hdecode

theorem mem_of_mem_bytes (hseparator : String.utf8EncodeChar separator = [byte])
    (hmem : byte ∈ bytes text) : separator ∈ text := by
  obtain ⟨character, hcharacter, hbyte⟩ := List.mem_flatMap.mp hmem
  exact eq_of_mem_encode hseparator hbyte ▸ hcharacter

theorem bytes_intercalate (separator : List Char) (texts : List (List Char)) :
    bytes (separator.intercalate texts) = (bytes separator).intercalate (texts.map bytes) := by
  cases texts with
  | nil => rfl
  | cons first others =>
    induction others generalizing first with
    | nil => simp
    | cons second later ih =>
      rw [List.intercalate_cons_cons, bytes_append, bytes_append, ih, List.map_cons, List.map_cons,
        List.map_cons, List.intercalate_cons_cons]

/-- The bytes of a text are cut at a separator of one byte where the text is cut. -/
theorem pieces_bytes (hseparator : String.utf8EncodeChar separator = [byte]) (text : List Char) :
    pieces byte (bytes text) = (pieces separator text).map bytes := by
  have hnone : ∀ piece ∈ (pieces separator text).map bytes, byte ∉ piece := by
    intro piece hpiece
    obtain ⟨part, hpart, rfl⟩ := List.mem_map.mp hpiece
    exact fun hmem ↦ not_mem_of_mem_pieces hpart (mem_of_mem_bytes hseparator hmem)
  have hne : (pieces separator text).map bytes ≠ [] :=
    mt List.map_eq_nil_iff.mp (pieces_ne_nil separator text)
  have hbytes : bytes text = [byte].intercalate ((pieces separator text).map bytes) := by
    rw [← bytes_singleton hseparator, ← bytes_intercalate, pieces_eq_splitOn,
      List.intercalate_splitOn]
  rw [hbytes, pieces_eq_splitOn, List.splitOn_intercalate byte hnone hne]

end Pieces

end SymbolGraph.Text
