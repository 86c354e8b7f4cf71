import SymbolGraph.Path
import SymbolGraph.Proofs.Path.Canonical
import SymbolGraph.Proofs.Text.Lossy

/-!
# Normal forms of paths

The components of a path are a mark at its front, for a root or a leading `.`, and its segments
(`components_eq`). Further back, slashes and `.` leave no trace (`components_append_idle`,
`components_append_idle_append`).

The normal form has the segments of the path as they are shown, and nothing else
(`segments_normalize`). So it is its own normal form (`normalize_normalize`), and two relative paths
have the same one when their components are shown alike without a leading `.`
(`normalize_eq_normalize_iff`). For paths that are texts this is to have the same components
(`IsText.normalize_eq_normalize_iff`); bytes that are no text are shown as replacements, and this is
all that two paths with one normal form can differ in. A path is seen from a root when it begins
with the components of the root (`relativeTo?_eq_none_iff`), and what is put behind a root is seen
from there in its own normal form (`relativeTo?_append`).
-/

set_option autoImplicit false
set_option relaxedAutoImplicit false

namespace SymbolGraph.RawPath

open SymbolGraph.Path (component front steps componentsOf written? ofComponents stripPrefix?)

/-- The parts of a path that lead somewhere. -/
def segments (path : RawPath) : List (List UInt8) :=
  steps (Text.pieces slash path)

/-! ### Parts -/

section Parts

variable {Part : Type} [DecidableEq Part] [PathPart Part]

theorem component_injective : Function.Injective (component : Part → PathComponent Part) := by
  intro first second hsame
  unfold component at hsame
  split at hsame
  · rename_i hfirst
    split at hsame
    · rename_i hsecond
      exact hfirst.trans hsecond.symm
    · cases hsame
  · split at hsame
    · cases hsame
    · exact PathComponent.name.inj hsame

theorem component_ne_here (part : Part) : component part ≠ .here := by
  unfold component
  split
  · exact nofun
  · exact nofun

/-- No part that leads somewhere is read as a `.` at the front. -/
theorem filter_component (parts : List Part) :
    (parts.map component).filter (· ≠ .here) = parts.map component := by
  refine List.filter_eq_self.mpr fun read hread ↦ decide_eq_true ?_
  obtain ⟨part, -, rfl⟩ := List.mem_map.mp hread
  exact component_ne_here part

/-- The mark at the front of a path. -/
theorem front_cases (parts : List Part) :
    (∃ next later, parts = PathPart.nothing :: next :: later ∧ front parts = [.root]) ∨
      front parts = [.here] ∨ front parts = [] := by
  unfold front
  split
  · exact Or.inr (Or.inr rfl)
  · split
    · exact Or.inr (Or.inl rfl)
    · exact Or.inr (Or.inr rfl)
  · rename_i part next later
    split
    · rename_i hnothing
      exact Or.inl ⟨next, later, congrArg (· :: next :: later) hnothing, rfl⟩
    · split
      · exact Or.inr (Or.inl rfl)
      · exact Or.inr (Or.inr rfl)

end Parts

/-! ### Components -/

section Components

variable {before : RawPath}

theorem components_eq (path : RawPath) :
    path.components = front (Text.pieces slash path) ++ path.segments.map component :=
  rfl

/-- The mark is seen from the first parts alone. An empty part by itself has none, but is a root
when others follow. -/
theorem front_append {parts : List (List UInt8)} (hne : parts ≠ []) (hempty : parts ≠ [[]])
    (others : List (List UInt8)) : front (parts ++ others) = front parts := by
  match parts with
  | [] => exact absurd rfl hne
  | [part] =>
    have hpart : part ≠ PathPart.nothing := fun hpart ↦ hempty (congrArg (fun only ↦ [only]) hpart)
    cases others with
    | nil => rfl
    | cons next later => exact if_neg hpart
  | first :: second :: rest => rfl

/-- What stands on either side of a slash is walked one after the other. -/
theorem segments_append (before after : RawPath) :
    segments (before ++ slash :: after) = before.segments ++ after.segments := by
  rw [segments, Text.pieces_append, steps, List.filter_append]
  rfl

/-- The parts of a path are the path again. -/
theorem intercalate_pieces (path : RawPath) :
    [slash].intercalate (Text.pieces slash path) = path := by
  rw [Text.pieces_eq_splitOn, List.intercalate_splitOn]

/-- A path with an empty part at its front begins with a slash. -/
theorem head?_of_pieces {path : RawPath} {next : List UInt8} {later : List (List UInt8)}
    (hpieces : Text.pieces slash path = [] :: next :: later) : path.head? = some slash := by
  rw [← intercalate_pieces path, hpieces]
  rfl

/-- Components that follow a path that is not empty are read without a mark. -/
theorem components_append (hbefore : before ≠ []) (after : RawPath) :
    components (before ++ slash :: after) =
      before.components ++ after.segments.map component := by
  have hempty : Text.pieces slash before ≠ [[]] := by
    intro hpieces
    rw [← intercalate_pieces before, hpieces] at hbefore
    exact hbefore rfl
  rw [components_eq, Text.pieces_append, front_append (Text.pieces_ne_nil slash before) hempty,
    segments_append, List.map_append, components_eq before, List.append_assoc]

/-- Bytes that add no segment add no component. -/
theorem components_append_idle (hbefore : before ≠ []) {idle : RawPath}
    (hidle : idle.segments = []) : components (before ++ slash :: idle) = before.components := by
  rw [components_append hbefore, hidle, List.map_nil, List.append_nil]

/-- A path that begins with a slash has a root. -/
theorem components_slash (after : RawPath) :
    components (slash :: after) = .root :: after.segments.map component := by
  have hpieces : Text.pieces slash (slash :: after) = [] :: Text.pieces slash after :=
    Text.pieces_append [] after
  have hsegments : segments (slash :: after) = after.segments := segments_append [] after
  obtain ⟨part, others, hafter⟩ := List.exists_cons_of_ne_nil (Text.pieces_ne_nil slash after)
  rw [components_eq, hsegments, hpieces, hafter]
  rfl

/-- Bytes between two slashes that add no segment add no component. -/
theorem components_append_idle_append (before : RawPath) {idle : RawPath}
    (hidle : idle.segments = []) (after : RawPath) :
    components (before ++ slash :: (idle ++ slash :: after)) =
      components (before ++ slash :: after) := by
  have hsegments : segments (idle ++ slash :: after) = after.segments := by
    rw [segments_append, hidle, List.nil_append]
  by_cases hbefore : before = []
  · subst hbefore
    rw [List.nil_append, List.nil_append, components_slash, components_slash, hsegments]
  · rw [components_append hbefore, components_append hbefore, hsegments]

end Components

/-! ### Shown segments -/

section Shown

variable {part : List UInt8}

theorem ofText_injective : Function.Injective ofText :=
  fun _ _ hsame ↦ String.toList_injective (Text.bytes_injective hsame)

theorem shownPart_ofText (text : String) : shownPart (ofText text) = text := by
  rw [shownPart, ofText, Text.lossy_bytes, String.ofList_toList]

/-- Only its own bytes are shown as a text without a replacement. -/
theorem shownPart_eq_iff {text : String} (hnone : Text.replacement ∉ text.toList) :
    shownPart part = text ↔ part = ofText text := by
  rw [shownPart, ← String.toList_inj, String.toList_ofList, Text.lossy_eq_iff hnone, ofText]

/-- A segment is shown as a segment. -/
theorem isSegment_shownPart {path : RawPath} (hpart : part ∈ path.segments) :
    Path.IsSegment (shownPart part) := by
  obtain ⟨hpiece, htest⟩ := List.mem_filter.mp hpart
  obtain ⟨hnothing, hhere⟩ := of_decide_eq_true htest
  refine ⟨fun hshown ↦ hnothing ?_, fun hshown ↦ hhere ?_, fun hmem ↦ ?_⟩
  · exact (shownPart_eq_iff (by decide)).mp hshown
  · exact (shownPart_eq_iff (by decide)).mp hshown
  · rw [shownPart, String.toList_ofList] at hmem
    have hinside := Text.encode_inside_of_mem_lossy hmem (by decide)
    exact Text.not_mem_of_mem_pieces hpiece (hinside.subset List.mem_cons_self)

/-- A part is shown before or after it is read. -/
theorem shown_component (part : List UInt8) :
    shown (component part) = component (shownPart part) := by
  have hup : shownPart part = ".." ↔ part = ofText ".." :=
    shownPart_eq_iff (by decide)
  by_cases hsame : part = ofText ".."
  · exact (congrArg shown (if_pos hsame)).trans (if_pos (hup.mpr hsame)).symm
  · exact (congrArg shown (if_neg hsame)).trans (if_neg (mt hup.mp hsame)).symm

theorem map_shown_component (parts : List (List UInt8)) :
    (parts.map component).map shown = (parts.map shownPart).map component := by
  rw [List.map_map, List.map_map]
  exact List.map_congr_left fun part _ ↦ shown_component part

end Shown

/-! ### Normal forms -/

section Normal

variable {first second : RawPath}

theorem written?_component (segment : String) : written? (component segment) = some segment := by
  unfold component
  split
  · rename_i hup
    exact congrArg some hup.symm
  · rfl

/-- Read parts are written as they were. -/
theorem filterMap_written? (names : List String) :
    (names.map component).filterMap written? = names := by
  rw [List.filterMap_map, show written? ∘ component = some from funext written?_component,
    List.filterMap_some]

theorem ofComponents_map (names : List String) :
    ofComponents (names.map component) = (Text.joined? "/" names).getD "." := by
  unfold ofComponents
  rw [filterMap_written?]
  cases names with
  | nil => rfl
  | cons name others => rfl

/-- The mark is not written. -/
theorem filterMap_front (parts : List (List UInt8)) :
    ((front parts).map shown).filterMap written? = [] := by
  rcases front_cases parts with ⟨_, _, _, hroot⟩ | hhere | hnone
  · rw [hroot]
    rfl
  · rw [hhere]
    rfl
  · rw [hnone]
    rfl

/-- The normal form of a path is made of its segments as they are shown. -/
theorem normalize_eq (path : RawPath) :
    path.normalize = (Text.joined? "/" (path.segments.map shownPart)).getD "." := by
  have hwritten : (path.components.map shown).filterMap written? =
      path.segments.map shownPart := by
    rw [components_eq, List.map_append, List.filterMap_append, filterMap_front, List.nil_append,
      map_shown_component, filterMap_written?]
  rw [← ofComponents_map, normalize, ofComponents, hwritten, ofComponents, filterMap_written?]

theorem segments_normalize (path : RawPath) :
    Path.segments path.normalize = path.segments.map shownPart := by
  rw [normalize_eq]
  by_cases hnone : path.segments.map shownPart = []
  · rw [hnone]
    decide
  · rw [Text.joined?_of_ne_nil hnone]
    refine Path.segments_join fun segment hsegment ↦ ?_
    obtain ⟨part, hpart, rfl⟩ := List.mem_map.mp hsegment
    exact isSegment_shownPart hpart

/-- A text is cut into segments as its bytes are. -/
theorem segments_ofText (path : String) :
    (ofText path).segments = (Path.segments path).map ofText := by
  have hslash : String.utf8EncodeChar '/' = [slash] := by decide
  have hpieces : Text.pieces slash (ofText path) = (Text.split '/' path).map ofText := by
    rw [ofText, Text.pieces_bytes hslash, Text.split, List.map_map]
    exact List.map_congr_left fun part _ ↦ congrArg Text.bytes String.toList_ofList.symm
  have hkept : ∀ part ∈ Text.split '/' path, decide (ofText part ≠ [] ∧ ofText part ≠ ofText ".") =
      decide (part ≠ "" ∧ part ≠ ".") := fun part _ ↦
    decide_eq_decide.mpr (and_congr (ofText_injective.ne_iff' rfl) ofText_injective.ne_iff)
  rw [segments, hpieces]
  exact List.filter_map.trans (congrArg (List.map ofText) (List.filter_congr hkept))

theorem map_shownPart_segments_ofText (path : String) :
    (ofText path).segments.map shownPart = Path.segments path := by
  rw [segments_ofText, List.map_map]
  exact List.map_id'' shownPart_ofText _

theorem normalize_normalize (path : RawPath) :
    (ofText path.normalize).normalize = path.normalize := by
  rw [normalize_eq (ofText path.normalize), map_shownPart_segments_ofText, segments_normalize,
    ← normalize_eq]

theorem normalize_eq_iff : first.normalize = second.normalize ↔
    first.segments.map shownPart = second.segments.map shownPart := by
  constructor
  · intro hsame
    rw [← segments_normalize first, hsame, segments_normalize]
  · intro hsame
    rw [normalize_eq, hsame, ← normalize_eq]

/-- The path does not begin at a root. -/
def IsRelative (path : RawPath) : Prop :=
  path.head? ≠ some slash

instance {path : RawPath} : Decidable (IsRelative path) :=
  inferInstanceAs (Decidable (path.head? ≠ some slash))

/-- Without a `.` at its front a relative path is its segments. -/
theorem IsRelative.filter_components {path : RawPath} (hpath : IsRelative path) :
    path.components.filter (· ≠ .here) = path.segments.map component := by
  have hfront : (front (Text.pieces slash path)).filter (· ≠ .here) = [] := by
    rcases front_cases (Text.pieces slash path) with ⟨_, _, hpieces, -⟩ | hhere | hnone
    · exact absurd (head?_of_pieces hpieces) hpath
    · rw [hhere]
      rfl
    · rw [hnone]
      rfl
  rw [components_eq, List.filter_append, hfront, List.nil_append, filter_component]

/-- Relative paths have one normal form when their components are shown alike. -/
theorem normalize_eq_normalize_iff (hfirst : IsRelative first) (hsecond : IsRelative second) :
    first.normalize = second.normalize ↔
      (first.components.filter (· ≠ .here)).map shown =
        (second.components.filter (· ≠ .here)).map shown := by
  rw [hfirst.filter_components, hsecond.filter_components, map_shown_component,
    map_shown_component, normalize_eq_iff]
  exact (List.map_injective_iff.mpr component_injective).eq_iff.symm

/-- The path is a text. -/
def IsText (path : RawPath) : Prop :=
  ∃ text : String, path = ofText text

instance {path : RawPath} : Decidable (IsText path) :=
  decidable_of_iff (ofText (shownPart path) = path)
    ⟨fun hsame ↦ ⟨shownPart path, hsame.symm⟩, fun ⟨text, htext⟩ ↦ by rw [htext, shownPart_ofText]⟩

/-- Relative paths that are texts have one normal form when they have the same components. -/
theorem IsText.normalize_eq_normalize_iff (htext : IsText first) (hother : IsText second)
    (hfirst : IsRelative first) (hsecond : IsRelative second) :
    first.normalize = second.normalize ↔
      first.components.filter (· ≠ .here) = second.components.filter (· ≠ .here) := by
  rw [hfirst.filter_components, hsecond.filter_components, normalize_eq_iff]
  obtain ⟨text, rfl⟩ := htext
  obtain ⟨other, rfl⟩ := hother
  rw [map_shownPart_segments_ofText, map_shownPart_segments_ofText, segments_ofText,
    segments_ofText]
  rw [(List.map_injective_iff.mpr component_injective).eq_iff,
    (List.map_injective_iff.mpr ofText_injective).eq_iff]

end Normal

/-! ### Paths seen from a root -/

section Relative

variable {first parts rest : List (PathComponent (List UInt8))}

/-- What is left of a list of components is what follows its first ones. -/
theorem stripPrefix?_eq_some_iff :
    stripPrefix? first parts = some rest ↔ parts = first ++ rest := by
  induction first generalizing parts with
  | nil => exact Option.some_inj
  | cons head others ih =>
    cases parts with
    | nil =>
      rw [List.cons_append]
      exact iff_of_false (Option.some_ne_none rest).symm (List.cons_ne_nil head _).symm
    | cons part later =>
      rw [stripPrefix?, List.cons_append, List.cons.injEq]
      by_cases hsame : head = part
      · rw [if_pos hsame, ih]
        exact (and_iff_right hsame.symm).symm
      · rw [if_neg hsame]
        exact iff_of_false (Option.some_ne_none rest).symm fun hparts ↦ hsame hparts.1.symm

/-- A path is not seen from a root whose components are not its first ones. -/
theorem relativeTo?_eq_none_iff {root path : RawPath} :
    root.relativeTo? path = none ↔ ¬ root.components <+: path.components := by
  rw [relativeTo?, Option.map_eq_none_iff, Option.eq_none_iff_forall_ne_some]
  constructor
  · rintro hnone ⟨rest, hpath⟩
    exact hnone rest (stripPrefix?_eq_some_iff.mpr hpath.symm)
  · intro hfront rest hstrip
    exact hfront ⟨rest, (stripPrefix?_eq_some_iff.mp hstrip).symm⟩

/-- What is put behind a root is seen from there in its normal form. -/
theorem relativeTo?_append {root : RawPath} (hroot : root ≠ []) (path : RawPath) :
    root.relativeTo? (root ++ slash :: path) = some path.normalize := by
  have hstrip : stripPrefix? root.components (components (root ++ slash :: path)) =
      some (path.segments.map component) :=
    stripPrefix?_eq_some_iff.mpr (components_append hroot path)
  rw [relativeTo?, hstrip, Option.map_some, map_shown_component, ofComponents_map, normalize_eq]

end Relative

end SymbolGraph.RawPath
