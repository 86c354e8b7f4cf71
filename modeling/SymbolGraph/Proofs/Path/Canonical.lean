import SymbolGraph.Path
import SymbolGraph.Proofs.Path.Suffix

/-!
# Canonical paths

A canonical path is written from the root of a repository, entry by entry (`IsCanonical`): nothing
in it is empty, `.` or `..`. Its segments are all that stands between its slashes, and joined by
slashes they are the path again (`IsCanonical.joined?_segments`, `segments_join`). The directory
of the path has all of them but the last (`IsCanonical.segments_parent`), and the last is cut into
the stem and the extension, if there is one (`IsCanonical.exists_stem`).
-/

set_option autoImplicit false
set_option relaxedAutoImplicit false

namespace SymbolGraph.Path

/-! ### Names -/

/-- The part of a path is a name, and no step inside it. -/
structure IsName (part : String) : Prop where
  ne_empty : part ≠ ""
  ne_here : part ≠ "."
  ne_up : part ≠ ".."

/-- What does not end with a dot is a name. -/
theorem isName_of_getLast? {part : String} {last : Char} (hlast : part.toList.getLast? = some last)
    (hother : last ≠ '.') : IsName part := by
  refine ⟨?_, ?_, ?_⟩
  · rintro rfl
    cases hlast
  · rintro rfl
    exact hother (Option.some.inj hlast).symm
  · rintro rfl
    exact hother (Option.some.inj hlast).symm

theorem isName_append_py (stem : String) : IsName (stem ++ ".py") := by
  have hlast : (stem ++ ".py").toList.getLast? = some 'y' := by
    rw [String.toList_append, List.getLast?_append]
    rfl
  exact isName_of_getLast? hlast (by decide)

/-- A path that is made of names has them as its components. -/
theorem components_eq_map {path : String} (hparts : ∀ part ∈ Text.split '/' path, IsName part) :
    components path = (Text.split '/' path).map .name := by
  have hsteps : steps (Text.split '/' path) = Text.split '/' path :=
    List.filter_eq_self.mpr fun part hpart ↦
      decide_eq_true ⟨(hparts part hpart).ne_empty, (hparts part hpart).ne_here⟩
  have hnames : (Text.split '/' path).map component = (Text.split '/' path).map .name :=
    List.map_congr_left fun part hpart ↦ if_neg (hparts part hpart).ne_up
  have hfront : front (Text.split '/' path) = [] := by
    unfold front
    split
    · rfl
    · rename_i part hsplit
      exact if_neg (hparts part (hsplit ▸ List.mem_cons_self)).ne_here
    · rename_i part next others hsplit
      have hpart := hparts part (hsplit ▸ List.mem_cons_self)
      exact (if_neg hpart.ne_empty).trans (if_neg hpart.ne_here)
  rw [components, componentsOf, hfront, hsteps, hnames, List.nil_append]

/-- A file name is cut at the dot before its extension. -/
theorem cutExtension_append {stem extension : String} (hstem : stem ≠ "")
    (hextension : '.' ∉ extension.toList) :
    cutExtension (stem ++ "." ++ extension) = (stem, some extension) := by
  have hcut : Text.splitLast? '.' (stem ++ "." ++ extension) = some (stem, extension) := by
    have hlist : (stem ++ "." ++ extension).toList = stem.toList ++ '.' :: extension.toList := by
      rw [String.toList_append, String.toList_append, List.append_assoc]
      rfl
    rw [Text.splitLast?, hlist, Text.cutLast_append hextension]
    simp
  rw [cutExtension, hcut]
  exact if_neg hstem

theorem cutExtension_append_py {stem : String} (hstem : stem ≠ "") :
    cutExtension (stem ++ ".py") = (stem, some "py") := by
  rw [show ".py" = "." ++ "py" from rfl, ← String.append_assoc]
  exact cutExtension_append hstem (by decide)

theorem eq_of_cutExtension {name stem extension : String}
    (hcut : cutExtension name = (stem, some extension)) :
    name = stem ++ "." ++ extension ∧ stem ≠ "" := by
  unfold cutExtension Text.splitLast? at hcut
  cases hlast : Text.cutLast '.' name.toList with
  | none =>
    rw [hlast] at hcut
    cases hcut
  | some cut =>
    obtain ⟨before, after⟩ := cut
    rw [hlast, Option.map_some] at hcut
    dsimp only at hcut
    split at hcut
    · cases hcut
    · rename_i hne
      obtain ⟨rfl, hafter⟩ := Prod.mk.inj hcut
      obtain rfl := Option.some.inj hafter
      refine ⟨String.toList_inj.mp ?_, hne⟩
      rw [(Text.eq_of_cutLast_eq_some hlast).1]
      simp

/-! ### Segments -/

section Segments

variable {names : List String}

/-- What stands on either side of a `/` is walked one after the other. -/
theorem segments_append (before after : String) :
    segments (before ++ "/" ++ after) = segments before ++ segments after := by
  rw [segments, show "/" = String.singleton '/' from rfl, Text.split_append, List.filter_append,
    segments, segments]

theorem filter_segments (hnames : ∀ name ∈ names, IsSegment name) :
    (names.filter fun segment ↦ segment ≠ "" ∧ segment ≠ ".") = names :=
  List.filter_eq_self.mpr fun name hname ↦
    decide_eq_true ⟨(hnames name hname).ne_empty, (hnames name hname).ne_here⟩

/-- Segments that are joined are the segments of the path. -/
theorem segments_join (hnames : ∀ name ∈ names, IsSegment name) :
    segments (Text.join "/" names) = names := by
  by_cases hnil : names = []
  · subst hnil
    decide
  · have hnone : ∀ name ∈ names, '/' ∉ name.toList := fun name hname ↦ (hnames name hname).not_mem
    have hsplit : Text.split '/' (Text.join "/" names) = names := Text.split_join hnone hnil
    rw [segments, hsplit, filter_segments hnames]

/-- The directory of a path is what stands before its last piece. -/
theorem parent_eq (path : String) :
    parent path = Text.join "/" (Text.split '/' path).dropLast := by
  unfold parent Text.splitLast?
  cases hcut : Text.cutLast '/' path.toList with
  | none =>
    rw [Text.split, Text.pieces_of_not_mem (Text.cutLast_eq_none_iff.mp hcut)]
    rfl
  | some cut =>
    obtain ⟨before, after⟩ := cut
    obtain ⟨hpath, hnone⟩ := Text.eq_of_cutLast_eq_some hcut
    have hpieces : Text.split '/' path =
        Text.split '/' (String.ofList before) ++ [String.ofList after] := by
      rw [Text.split, hpath, Text.pieces_append, Text.pieces_of_not_mem hnone, List.map_append,
        Text.split, String.toList_ofList]
      rfl
    rw [hpieces, List.dropLast_concat]
    exact (Text.join_split '/' (String.ofList before)).symm

end Segments

/-! ### Entries -/

/-- The text names an entry of a directory. -/
structure IsEntry (text : String) : Prop extends IsSegment text, IsName text

instance {text : String} : Decidable (IsEntry text) :=
  decidable_of_iff (text ≠ "" ∧ text ≠ "." ∧ '/' ∉ text.toList ∧ text ≠ "..")
    ⟨fun ⟨hempty, hhere, hslash, hup⟩ ↦ ⟨⟨hempty, hhere, hslash⟩, hup⟩,
      fun hentry ↦ ⟨hentry.ne_empty, hentry.ne_here, hentry.not_mem, hentry.ne_up⟩⟩

/-- The path is written from the root of the repository, entry by entry. -/
def IsCanonical (path : String) : Prop :=
  ∀ segment ∈ Text.split '/' path, IsEntry segment

instance {path : String} : Decidable (IsCanonical path) :=
  inferInstanceAs (Decidable (∀ segment ∈ Text.split '/' path, IsEntry segment))

theorem IsCanonical.isSegmented {path : String} (hpath : IsCanonical path) : IsSegmented path :=
  fun segment hsegment ↦ (hpath segment hsegment).toIsSegment

theorem IsCanonical.segments_eq {path : String} (hpath : IsCanonical path) :
    segments path = Text.split '/' path :=
  filter_segments hpath.isSegmented

theorem IsCanonical.isEntry {path : String} (hpath : IsCanonical path) :
    ∀ segment ∈ segments path, IsEntry segment :=
  hpath.segments_eq ▸ hpath

/-- A canonical path is made of its segments, and there is at least one. -/
theorem IsCanonical.joined?_segments {path : String} (hpath : IsCanonical path) :
    Text.joined? "/" (segments path) = some path := by
  rw [hpath.segments_eq, Text.joined?_of_ne_nil (Text.split_ne_nil '/' path)]
  exact congrArg some (Text.join_split '/' path)

/-- A canonical path is made of names. -/
theorem IsCanonical.components_eq {path : String} (hpath : IsCanonical path) :
    components path = (segments path).map .name := by
  rw [components_eq_map fun part hpart ↦ (hpath part hpart).toIsName, hpath.segments_eq]

/-- Entries that are joined are a canonical path. -/
theorem isCanonical_join {names : List String} (hnames : ∀ name ∈ names, IsEntry name)
    (hne : names ≠ []) : IsCanonical (Text.join "/" names) := by
  have hsplit : Text.split '/' (Text.join "/" names) = names :=
    Text.split_join (fun name hname ↦ (hnames name hname).not_mem) hne
  exact fun segment hsegment ↦ hnames segment (hsplit ▸ hsegment)

/-- The directory of a canonical path has its segments but the last. -/
theorem IsCanonical.segments_parent {path : String} (hpath : IsCanonical path) :
    segments (parent path) = (segments path).dropLast := by
  rw [parent_eq, hpath.segments_eq]
  exact segments_join fun name hname ↦ (hpath name (List.dropLast_subset _ hname)).toIsSegment

/-- A canonical path with an extension ends with its stem, a dot and the extension. -/
theorem IsCanonical.exists_stem {path extension : String} (hpath : IsCanonical path)
    (hextension : extension? path = some extension) : ∃ stem, stem? path = some stem ∧ stem ≠ "" ∧
      segments path = segments (parent path) ++ [stem ++ "." ++ extension] := by
  obtain ⟨name, hname, hcut⟩ := Option.bind_eq_some_iff.mp hextension
  obtain ⟨hfileName, hne⟩ := eq_of_cutExtension (Prod.ext rfl hcut)
  have hlast : (segments path).getLast? = some name := by
    rw [fileName?, hpath.components_eq, List.getLast?_map] at hname
    cases hsegments : (segments path).getLast? with
    | none =>
      rw [hsegments] at hname
      cases hname
    | some last =>
      rw [hsegments] at hname
      exact hname
  refine ⟨(cutExtension name).1, congrArg (Option.map _) hname, hne, ?_⟩
  rw [hpath.segments_parent, ← hfileName]
  exact (List.dropLast_append_getLast? name hlast).symm

end SymbolGraph.Path
