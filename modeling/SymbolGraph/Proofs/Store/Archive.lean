import SymbolGraph.Proofs.Text.Decimal
import SymbolGraph.Proofs.Text.Lines
import SymbolGraph.Proofs.Text.Split
import SymbolGraph.Store.Archive

/-!
# A store is read as it was written

The text that a store is kept as gives the same store again, when the numbers in it fit into 64 bits
(`decode_encode`). A field holds no tab and no line break, because they are escaped (`IsField`), so
that the lines and the fields of the text are those that were written; and every field is read as
what was written in it (`row?_ofRow`).
-/

set_option autoImplicit false
set_option relaxedAutoImplicit false

namespace SymbolGraph.Store

namespace Archive

/-! ### Fields -/

/-- A field is read as the text that was written. -/
theorem unescape_escape (text : List Char) : unescape (escape text) = text := by
  induction text with
  | nil => rfl
  | cons character rest ih =>
    have hstep : unescape (escapeChar character ++ escape rest) =
        character :: unescape (escape rest) := by
      by_cases hbackslash : character = '\\'
      · subst hbackslash
        rfl
      by_cases htab : character = '\t'
      · subst htab
        rfl
      by_cases hfeed : character = '\n'
      · subst hfeed
        rfl
      by_cases hreturn : character = '\r'
      · subst hreturn
        rfl
      rw [escapeChar, if_neg hbackslash, if_neg htab, if_neg hfeed, if_neg hreturn,
        List.singleton_append, unescape]
      all_goals simp [hbackslash]
    calc unescape (escape (character :: rest))
        = unescape (escapeChar character ++ escape rest) := by
          rw [escape, List.flatMap_cons, escape]
      _ = character :: unescape (escape rest) := hstep
      _ = character :: rest := by rw [ih]

theorem text_ofText (written : String) : text (ofText written) = written := by
  rw [text, ofText, String.toList_ofList, unescape_escape, String.ofList_toList]

theorem text?_ofText? (written : Option String) : text? (ofText? written) = written := by
  cases written with
  | none => rfl
  | some written =>
    have hfield : (ofText? (some written)).toList = '=' :: escape written.toList := by
      simp [ofText?, ofText]
    calc text? (ofText? (some written))
        = some (String.ofList (unescape (escape written.toList))) := by rw [text?, hfield]; rfl
      _ = some written := by rw [unescape_escape, String.ofList_toList]

theorem number?_toString {number : Int} (hholds : Text.Holds 64 number) :
    number? (toString number) = some number :=
  Text.signed?_toString hholds

theorem number?_ofNumber? {number : Option Int} (hholds : ∀ value ∈ number, Text.Holds 64 value) :
    number? (ofNumber? number) = number := by
  cases number with
  | none => rfl
  | some value => exact number?_toString (hholds value rfl)

theorem flag?_ofFlag (flag : Bool) : flag? (ofFlag flag) = some flag := by
  cases flag with
  | false => rfl
  | true => rfl

theorem kind?_text (kind : SymbolKind) : SymbolKind.ofText? kind.text = some kind := by
  cases kind <;> rfl

/-! ### Rows -/

/-- The numbers of a row. -/
def numbers : Row → List Int
  | .project row => [row.id]
  | .symbol row =>
    [row.id, row.projectId, row.parentKey, row.span.startLine, row.span.endLine,
     row.span.startByte, row.span.endByte] ++ row.parentId.toList
  | .imported row => [row.id, row.projectId, row.line] ++ row.target.toList
  | .call row => [row.id, row.projectId, row.callerId, row.line] ++ row.target.toList

/-- A row is read as it was written. -/
theorem row?_ofRow {row : Row} (hholds : ∀ number ∈ numbers row, Text.Holds 64 number) :
    row? (ofRow row) = some row := by
  cases row with
  | project row =>
    simp only [numbers, List.forall_mem_singleton] at hholds
    simp [-Int.toString_eq_repr, ofRow, row?, number?_toString hholds, text_ofText]
  | symbol row =>
    simp only [numbers, List.forall_mem_append, List.forall_mem_cons, Option.mem_toList] at hholds
    obtain ⟨⟨hid, hproject, hkey, hstartLine, hendLine, hstartByte, hendByte, -⟩, hparent⟩ := hholds
    simp [-Int.toString_eq_repr, ofRow, ofSpan, row?, number?_toString hid,
      number?_toString hproject, number?_toString hkey, number?_toString hstartLine,
      number?_toString hendLine, number?_toString hstartByte, number?_toString hendByte,
      number?_ofNumber? hparent, text_ofText, text?_ofText?, kind?_text]
  | imported row =>
    simp only [numbers, List.forall_mem_append, List.forall_mem_cons, Option.mem_toList] at hholds
    obtain ⟨⟨hid, hproject, hline, -⟩, htarget⟩ := hholds
    simp [-Int.toString_eq_repr, ofRow, row?, number?_toString hid, number?_toString hproject,
      number?_toString hline, number?_ofNumber? htarget, text_ofText, text?_ofText?, flag?_ofFlag]
  | call row =>
    simp only [numbers, List.forall_mem_append, List.forall_mem_cons, Option.mem_toList] at hholds
    obtain ⟨⟨hid, hproject, hcaller, hline, -⟩, htarget⟩ := hholds
    simp [-Int.toString_eq_repr, ofRow, row?, number?_toString hid, number?_toString hproject,
      number?_toString hcaller, number?_toString hline, number?_ofNumber? htarget, text_ofText]

/-- The rows of a store make up the store. -/
theorem ofRows_rows (store : Store) : ofRows (rows store) = store := by
  have hothers {α β : Type} (list : List α) : list.filterMap (fun _ ↦ (none : Option β)) = [] := by
    simp
  simp [ofRows, rows, List.filterMap_append, List.filterMap_map, Function.comp_def, project?,
    symbol?, imported?, call?, hothers]

/-! ### Lines -/

/-- The characters that no field holds. -/
def breaks : List Char :=
  ['\t', '\n', '\r']

/-- None of the characters is a tab or a line break. -/
def IsUnbroken (text : List Char) : Prop :=
  ∀ character ∈ text, character ∉ breaks

-- By its name, since the search may find the instance that goes through all characters there are.
instance (text : List Char) : Decidable (IsUnbroken text) :=
  List.decidableBAll (· ∉ breaks) text

/-- The text holds no tab and no line break. -/
def IsField (field : String) : Prop :=
  IsUnbroken field.toList

instance (field : String) : Decidable (IsField field) :=
  inferInstanceAs (Decidable (IsUnbroken field.toList))

theorem isUnbroken_escapeChar (character : Char) : IsUnbroken (escapeChar character) := by
  unfold escapeChar
  split
  · decide
  split
  · decide
  split
  · decide
  split
  · decide
  · rename_i htab hfeed hreturn
    intro letter hmem
    rw [List.mem_singleton.mp hmem]
    simp [breaks, htab, hfeed, hreturn]

theorem not_mem_breaks_of_isDigit {character : Char} (hdigit : character.isDigit = true) :
    character ∉ breaks := by
  intro hbreak
  have hnone : (breaks.all fun letter ↦ !letter.isDigit) = true := by decide
  have hother := List.all_eq_true.mp hnone character hbreak
  rw [hdigit] at hother
  cases hother

theorem isField_append {first second : String} (hfirst : IsField first) (hsecond : IsField second) :
    IsField (first ++ second) := by
  intro character hmem
  rw [String.toList_append] at hmem
  rcases List.mem_append.mp hmem with hmem | hmem
  · exact hfirst character hmem
  · exact hsecond character hmem

theorem isField_ofText (text : String) : IsField (ofText text) := by
  intro character hmem
  rw [ofText, String.toList_ofList] at hmem
  obtain ⟨written, -, hmem⟩ := List.mem_flatMap.mp hmem
  exact isUnbroken_escapeChar written character hmem

theorem isField_ofText? (text : Option String) : IsField (ofText? text) := by
  cases text with
  | none => exact nofun
  | some text => exact isField_append (by decide) (isField_ofText text)

theorem isField_toString (number : Int) : IsField (toString number) := by
  intro character hmem
  rcases Text.isDigit_of_mem_toString hmem with hdigit | rfl
  · exact not_mem_breaks_of_isDigit hdigit
  · decide

theorem isField_ofNumber? (number : Option Int) : IsField (ofNumber? number) := by
  cases number with
  | none => exact nofun
  | some number => exact isField_toString number

theorem isField_ofFlag (flag : Bool) : IsField (ofFlag flag) := by
  cases flag with
  | false => decide
  | true => decide

theorem isField_kind (kind : SymbolKind) : IsField kind.text := by
  cases kind <;> decide

/-- What is written of a row are fields. -/
theorem isField_ofRow {row : Row} : ∀ field ∈ ofRow row, IsField field := by
  cases row with
  | project row =>
    simp only [ofRow, List.forall_mem_cons]
    exact ⟨by decide, isField_toString _, isField_ofText _, isField_ofText _, nofun⟩
  | symbol row =>
    simp only [ofRow, ofSpan, List.forall_mem_append, List.forall_mem_cons]
    exact ⟨⟨by decide, isField_toString _, isField_toString _, isField_ofNumber? _,
      isField_ofText _, isField_ofText _, isField_kind _, isField_ofText? _, isField_toString _,
      nofun⟩, isField_toString _, isField_toString _, isField_toString _, isField_toString _,
      nofun⟩
  | imported row =>
    simp only [ofRow, List.forall_mem_cons]
    exact ⟨by decide, isField_toString _, isField_toString _, isField_ofText _, isField_ofText _,
      isField_ofText _, isField_ofText? _, isField_toString _, isField_ofNumber? _,
      isField_ofFlag _, nofun⟩
  | call row =>
    simp only [ofRow, List.forall_mem_cons]
    exact ⟨by decide, isField_toString _, isField_toString _, isField_ofText _, isField_toString _,
      isField_ofText _, isField_toString _, isField_ofNumber? _, nofun⟩

theorem ofRow_ne_nil (row : Row) : ofRow row ≠ [] := by
  cases row <;> exact List.cons_ne_nil _ _

/-- Fields in a line are cut apart again. -/
theorem split_join {fields : List String} (hfields : ∀ field ∈ fields, IsField field)
    (hne : fields ≠ []) : Text.split '\t' (Text.join "\t" fields) = fields :=
  Text.split_join (fun field hfield htab ↦ hfields field hfield _ htab (by decide)) hne

/-- What is neither a tab nor in a field is not in a line of fields. -/
theorem not_mem_join {fields : List String} {letter : Char} (htab : letter ≠ '\t')
    (hfields : ∀ field ∈ fields, letter ∉ field.toList) :
    letter ∉ (Text.join "\t" fields).toList := by
  rw [Text.join, String.toList_intercalate]
  induction fields with
  | nil => exact List.not_mem_nil
  | cons field others ih =>
    obtain ⟨hfield, hothers⟩ := List.forall_mem_cons.mp hfields
    cases others with
    | nil => simpa [List.intercalate_singleton] using hfield
    | cons next later =>
      rw [List.map_cons, List.map_cons, List.intercalate_cons_cons, ← List.map_cons]
      simp only [List.mem_append, not_or]
      exact ⟨⟨hfield, by simpa using htab⟩, ih hothers⟩

/-- The lines of a text are those that were written. -/
theorem lines_written {written : List (List String)}
    (hwritten : ∀ fields ∈ written, fields ≠ [] ∧ ∀ field ∈ fields, IsField field) :
    (Text.lines (String.join (written.map fun fields ↦ Text.join "\t" fields ++ "\n")).toList).map
      (fun line ↦ Text.split '\t' (String.ofList line)) = written := by
  have hparts : ∀ part ∈ written.map fun fields ↦ (Text.join "\t" fields).toList,
      '\n' ∉ part ∧ '\r' ∉ part := by
    intro part hmem
    obtain ⟨fields, hfields, rfl⟩ := List.mem_map.mp hmem
    have hfree := (hwritten fields hfields).2
    exact ⟨not_mem_join (by decide) fun field hfield hfeed ↦ hfree field hfield _ hfeed (by decide),
      not_mem_join (by decide) fun field hfield hreturn ↦
        hfree field hfield _ hreturn (by decide)⟩
  have htext : (String.join (written.map fun fields ↦ Text.join "\t" fields ++ "\n")).toList =
      (written.map fun fields ↦ (Text.join "\t" fields).toList).flatMap (· ++ ['\n']) := by
    rw [String.toList_join, List.flatMap_map, List.flatMap_map]
    exact congrArg (written.flatMap ·) (funext fun fields ↦ String.toList_append)
  rw [htext, Text.lines_flatMap_feed hparts, List.map_map]
  refine (List.map_congr_left fun fields hmem ↦ ?_).trans (List.map_id written)
  have hsplit := split_join (hwritten fields hmem).2 (hwritten fields hmem).1
  simpa using hsplit

theorem decodeRows_map {rows : List Row}
    (hholds : ∀ row ∈ rows, ∀ number ∈ numbers row, Text.Holds 64 number) :
    decodeRows (rows.map ofRow) = .ok rows := by
  induction rows with
  | nil => rfl
  | cons row rest ih =>
    obtain ⟨hrow, hrest⟩ := List.forall_mem_cons.mp hholds
    have hothers : decodeRows (rest.map ofRow) = .ok rest := ih hrest
    rw [decodeRows] at hothers ⊢
    rw [List.map_cons, List.mapM_cons, row?_ofRow hrow, hothers]
    rfl

end Archive

/-- The version that is written is not refused. -/
theorem checkVersion_supportedVersion : checkVersion (toString supportedVersion) = .ok () := by
  have hread : Text.signed? 64 (toString supportedVersion).toList = some supportedVersion :=
    Text.signed?_toString ⟨by decide, by decide⟩
  rw [checkVersion, hread]
  exact if_neg (Int.lt_irrefl supportedVersion)

/-- The store is read from its text as it was written. -/
theorem decode_encode {store : Store}
    (hholds : ∀ row ∈ Archive.rows store, ∀ number ∈ Archive.numbers row, Text.Holds 64 number) :
    decode (encode store) = .ok store := by
  have hlines : ∀ fields ∈ ["version", toString supportedVersion] ::
      (Archive.rows store).map Archive.ofRow,
      fields ≠ [] ∧ ∀ field ∈ fields, Archive.IsField field := by
    refine List.forall_mem_cons.mpr ⟨⟨List.cons_ne_nil _ _, by decide⟩, fun fields hmem ↦ ?_⟩
    obtain ⟨row, -, rfl⟩ := List.mem_map.mp hmem
    exact ⟨Archive.ofRow_ne_nil row, Archive.isField_ofRow⟩
  rw [decode, encode, Archive.lines_written hlines]
  change (do
    checkVersion (toString supportedVersion)
    let rows ← decodeRows ((Archive.rows store).map Archive.ofRow)
    pure (Archive.ofRows rows)) = _
  rw [checkVersion_supportedVersion, Archive.decodeRows_map hholds]
  exact congrArg Except.ok (Archive.ofRows_rows store)

end SymbolGraph.Store
