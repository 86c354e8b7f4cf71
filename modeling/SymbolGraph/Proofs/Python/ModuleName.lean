import SymbolGraph.Extraction
import SymbolGraph.Language
import SymbolGraph.Proofs.Path.Canonical
import SymbolGraph.Python.ModuleName

/-!
# Modules and their files

The source file of a module has the module's dotted name as its path, with a `/` for each dot and an
extension (`sourceFile`). It is the first file that an import of the module may be taken from
(`head?_candidates`), and the module of this file is the one that was asked for
(`ofPath_sourceFile`), unless the name ends in `__init__`: then the file stands for its directory
and its module is called like that.
-/

set_option autoImplicit false
set_option relaxedAutoImplicit false

namespace SymbolGraph

namespace Python.ModuleName

/-- The path of the file that a dotted name is the module of. -/
def sourceFile (moduleName : String) : String :=
  moduleName.map (fun character ↦ if character = '.' then '/' else character) ++ ".py"

/-- The dotted name with a `/` for each dot. -/
def slashed (name : String) : String :=
  String.ofList (name.toList.map fun character ↦ if character = '.' then '/' else character)

theorem sourceFile_eq (moduleName : String) :
    sourceFile moduleName = slashed moduleName ++ ".py" := by
  rw [sourceFile, slashed, ← String.toList_map, String.ofList_toList]

/-- The parts of the name are not empty, and each of them may be a part of a path. -/
structure IsDotted (name : String) : Prop where
  ne_empty : ∀ part ∈ Text.split '.' name, part ≠ ""
  not_mem : '/' ∉ name.toList

/-! ### Parts -/

theorem leaf_of_not_mem {name : String} (hnone : '.' ∉ name.toList) : leaf name = name := by
  rw [leaf, Text.splitLast?, Text.cutLast_eq_none_iff.mpr hnone]
  rfl

theorem leaf_of_cutLast {name : String} {before after : List Char}
    (hcut : Text.cutLast '.' name.toList = some (before, after)) :
    leaf name = String.ofList after := by
  rw [leaf, Text.splitLast?, hcut]
  rfl

theorem mem_of_mem_leaf {name : String} {character : Char}
    (hmem : character ∈ (leaf name).toList) : character ∈ name.toList := by
  cases hcut : Text.cutLast '.' name.toList with
  | none => rwa [leaf_of_not_mem (Text.cutLast_eq_none_iff.mp hcut)] at hmem
  | some cut =>
    rw [leaf_of_cutLast hcut, String.toList_ofList] at hmem
    rw [(Text.eq_of_cutLast_eq_some hcut).1]
    exact List.mem_append_right _ (List.mem_cons_of_mem _ hmem)

/-- The last part of a name comes after its other parts. -/
theorem split_eq (name : String) :
    Text.split '.' name = (Text.split '.' name).dropLast ++ [leaf name] := by
  cases hcut : Text.cutLast '.' name.toList with
  | none =>
    have hnone := Text.cutLast_eq_none_iff.mp hcut
    rw [leaf_of_not_mem hnone, Text.split, Text.pieces_of_not_mem hnone]
    simp
  | some cut =>
    obtain ⟨hname, hnone⟩ := Text.eq_of_cutLast_eq_some hcut
    rw [leaf_of_cutLast hcut, Text.split, hname, Text.pieces_append,
      Text.pieces_of_not_mem hnone]
    simp

/-- What a simple callee is qualified by is dotted. -/
theorem isDotted_of_isSimpleCallee {qualifier member : String}
    (hsimple : isSimpleCallee (qualifier ++ "." ++ member) = true) : IsDotted qualifier := by
  have hcallee : (qualifier ++ "." ++ member).toList =
      qualifier.toList ++ '.' :: member.toList := by
    rw [String.toList_append, String.toList_append, List.append_assoc]
    rfl
  have hparts : ∀ part ∈ Text.split '.' qualifier,
      part ≠ "" ∧ ∀ character ∈ part.toList, isCalleeCharacter character = true := by
    intro part hpart
    have hmem : part ∈ Text.split '.' (qualifier ++ "." ++ member) := by
      rw [Text.split, hcallee, Text.pieces_append, List.map_append]
      exact List.mem_append_left _ hpart
    have htest := List.all_eq_true.mp hsimple part hmem
    rwa [Bool.and_eq_true, decide_eq_true_iff, List.all_eq_true] at htest
  refine ⟨fun part hpart ↦ (hparts part hpart).1, fun hslash ↦ ?_⟩
  have hseparate : '/' ≠ '.' := by decide
  obtain ⟨piece, hpiece, hin⟩ := Text.exists_mem_pieces hslash hseparate
  have hcharacter := (hparts (String.ofList piece) (List.mem_map_of_mem hpiece)).2 '/' (by
    rwa [String.toList_ofList])
  exact absurd hcharacter (by decide)

theorem IsDotted.leaf_ne_empty {name : String} (hname : IsDotted name) : leaf name ≠ "" :=
  hname.ne_empty _ (by rw [split_eq]; exact List.mem_append_right _ List.mem_cons_self)

/-! ### Dots and slashes -/

/-- A text without dots stays as it is. -/
theorem map_of_not_mem {text : List Char} (hnone : '.' ∉ text) :
    text.map (fun character ↦ if character = '.' then '/' else character) = text := by
  refine (List.map_congr_left fun character hmem ↦ if_neg ?_).trans (List.map_id text)
  rintro rfl
  exact hnone hmem

/-- Cutting at dots and writing `/` for them first comes to the same, in a text without a `/`. -/
theorem pieces_map {text : List Char} (hnone : '/' ∉ text) :
    Text.pieces '/' (text.map fun character ↦ if character = '.' then '/' else character) =
      Text.pieces '.' text := by
  induction text with
  | nil => rfl
  | cons character rest ih =>
    rw [List.mem_cons, not_or] at hnone
    rw [List.map_cons, Text.pieces, Text.pieces, ih hnone.2]
    by_cases hdot : character = '.'
    · rw [if_pos hdot, if_pos rfl, if_pos hdot]
    · rw [if_neg hdot, if_neg (Ne.symm hnone.1), if_neg hdot]

/-! ### Paths -/

/-- The parts of the path are those of the name, with the extension behind the last one. -/
theorem split_sourceFile {name : String} (hnone : '/' ∉ name.toList) :
    Text.split '/' (sourceFile name) =
      (Text.split '.' name).dropLast ++ [leaf name ++ ".py"] := by
  have hpath : (sourceFile name).toList =
      name.toList.map (fun character ↦ if character = '.' then '/' else character) ++
        ".py".toList := by
    rw [sourceFile, String.toList_append, String.toList_map]
  have hlast : ∀ last : List Char, '.' ∉ last → '/' ∉ last →
      Text.pieces '/' (last.map (fun character ↦ if character = '.' then '/' else character) ++
        ".py".toList) = [last ++ ".py".toList] := by
    intro last hdot hslash
    rw [map_of_not_mem hdot, Text.pieces_of_not_mem]
    rw [List.mem_append, not_or]
    exact ⟨hslash, by decide⟩
  cases hcut : Text.cutLast '.' name.toList with
  | none =>
    have hdot := Text.cutLast_eq_none_iff.mp hcut
    rw [Text.split, hpath, hlast _ hdot hnone, leaf_of_not_mem hdot, Text.split,
      Text.pieces_of_not_mem hdot]
    simp [String.ofList_append]
  | some cut =>
    obtain ⟨before, after⟩ := cut
    obtain ⟨hname, hdot⟩ := Text.eq_of_cutLast_eq_some hcut
    rw [hname, List.mem_append, List.mem_cons, not_or, not_or] at hnone
    rw [Text.split, hpath, hname, List.map_append, List.map_cons, if_pos rfl, List.append_assoc,
      List.cons_append, Text.pieces_append, pieces_map hnone.1, hlast _ hdot hnone.2.2,
      leaf_of_cutLast hcut, Text.split, hname, Text.pieces_append, Text.pieces_of_not_mem hdot]
    simp [String.ofList_append]

/-- What stands between the slashes of the path are names. -/
theorem IsDotted.isName_of_mem_split {name : String} (hname : IsDotted name) :
    ∀ part ∈ Text.split '/' (sourceFile name), Path.IsName part := by
  rw [split_sourceFile hname.not_mem, List.forall_mem_append, List.forall_mem_singleton]
  constructor
  · intro part hpart
    have hmem := List.dropLast_subset _ hpart
    have hdot := Text.not_mem_of_mem_split hmem
    refine ⟨hname.ne_empty part hmem, ?_, ?_⟩
    · rintro rfl
      exact hdot (by decide)
    · rintro rfl
      exact hdot (by decide)
  · exact Path.isName_append_py (leaf name)

/-- The file of a module is called like the last part of its name. -/
theorem IsDotted.fileName?_sourceFile {name : String} (hname : IsDotted name) :
    Path.fileName? (sourceFile name) = some (leaf name ++ ".py") := by
  rw [Path.fileName?, Path.components_eq_map hname.isName_of_mem_split,
    split_sourceFile hname.not_mem, List.map_append, List.getLast?_append]
  rfl

theorem IsDotted.ofPath?_sourceFile {name : String} (hname : IsDotted name) :
    Language.ofPath? (sourceFile name) = some .python := by
  rw [Language.ofPath?, Path.extension?, hname.fileName?_sourceFile]
  change ((Path.cutExtension (leaf name ++ ".py")).2.bind _) = _
  rw [Path.cutExtension_append_py hname.leaf_ne_empty]
  rfl

theorem IsDotted.stem?_append_py {name : String} (hname : IsDotted name) :
    Path.stem? (leaf name ++ ".py") = some (leaf name) := by
  have hslash : '/' ∉ (leaf name ++ ".py").toList := by
    rw [String.toList_append, List.mem_append, not_or]
    exact ⟨fun hmem ↦ hname.not_mem (mem_of_mem_leaf hmem), by decide⟩
  have hsplit : Text.split '/' (leaf name ++ ".py") = [leaf name ++ ".py"] := by
    rw [Text.split, Text.pieces_of_not_mem hslash]
    simp
  have hcomponents : Path.components (leaf name ++ ".py") = [.name (leaf name ++ ".py")] := by
    rw [Path.components_eq_map, hsplit]
    · rfl
    · rw [hsplit, List.forall_mem_singleton]
      exact Path.isName_append_py (leaf name)
  rw [Path.stem?, Path.fileName?, hcomponents]
  change some (Path.cutExtension (leaf name ++ ".py")).1 = _
  rw [Path.cutExtension_append_py hname.leaf_ne_empty]

/-- The module of a source file is called by all parts of the name, unless the last one stands for
the directory. -/
theorem IsDotted.ofPath_sourceFile {name : String} (hname : IsDotted name) :
    ofPath (sourceFile name) = (Text.joined? "." (if leaf name = initStem
      then (Text.split '.' name).dropLast else Text.split '.' name)).getD initStem := by
  have hparts : (Path.components (sourceFile name)).map part =
      (Text.split '.' name).dropLast ++ [leaf name ++ ".py"] := by
    rw [Path.components_eq_map hname.isName_of_mem_split, List.map_map,
      split_sourceFile hname.not_mem]
    exact List.map_id _
  unfold ofPath
  dsimp only
  rw [hparts, List.getLast?_concat, Option.getD_some, hname.stem?_append_py, Option.getD_some,
    List.dropLast_concat, ← split_eq]
  cases (if leaf name = initStem then (Text.split '.' name).dropLast else Text.split '.' name) with
  | nil => rfl
  | cons first others => rfl

/-- The module of a source file has a name with the same last part. A last part that stands for the
directory is left out, which changes nothing when it is the only one or comes after another one like
it. -/
theorem IsDotted.leaf_ofPath_eq_iff {name : String} (hname : IsDotted name) :
    leaf (ofPath (sourceFile name)) = leaf name ↔
      (leaf name = initStem →
        (Text.split '.' name).dropLast.getLast?.getD initStem = initStem) := by
  rw [hname.ofPath_sourceFile]
  by_cases hleaf : leaf name = initStem
  · rw [if_pos hleaf, hleaf]
    refine Iff.trans ?_ (forall_prop_of_true rfl).symm
    by_cases hnone : (Text.split '.' name).dropLast = []
    · rw [hnone]
      exact iff_of_true (by decide) rfl
    · have hparts : ∀ part ∈ (Text.split '.' name).dropLast, '.' ∉ part.toList :=
        fun part hpart ↦ Text.not_mem_of_mem_split (List.dropLast_subset _ hpart)
      have hsplit : Text.split '.' (Text.join "." (Text.split '.' name).dropLast) =
          (Text.split '.' name).dropLast := Text.split_join hparts hnone
      have hlast := congrArg List.getLast? (split_eq (Text.join "." (Text.split '.' name).dropLast))
      rw [hsplit, List.getLast?_concat] at hlast
      rw [Text.joined?_of_ne_nil hnone, Option.getD_some, hlast, Option.getD_some]
  · have hwhole : Text.join "." (Text.split '.' name) = name := Text.join_split '.' name
    rw [if_neg hleaf, Text.joined?_of_ne_nil (Text.split_ne_nil '.' name), Option.getD_some, hwhole]
    exact iff_of_true rfl fun hinit ↦ absurd hinit hleaf

/-- The files that an import of a module may be taken from are called like the module or lie in its
directory. -/
theorem IsDotted.candidates_eq {moduleName : String} (hname : IsDotted moduleName)
    (name : String) : candidates moduleName name =
      [slashed moduleName ++ ".py", slashed moduleName ++ ".pyi",
        slashed moduleName ++ "/__init__.py"] ++
      if name = "" ∨ name = "*" then []
      else [slashed moduleName ++ "/" ++ name ++ ".py",
        slashed moduleName ++ "/" ++ name ++ "/__init__.py"] := by
  unfold candidates
  split
  · rename_i hempty
    refine absurd rfl (hname.ne_empty "" ?_)
    rw [Text.split, hempty]
    exact List.mem_cons_self
  · rename_i rest hdot
    refine absurd rfl (hname.ne_empty "" ?_)
    rw [Text.split, hdot]
    exact List.mem_cons_self
  · dsimp only
    split
    · exact (List.append_nil _).symm
    · rfl

/-- The first file that an import of a module may be taken from is the source file. -/
theorem IsDotted.head?_candidates {moduleName : String} (hname : IsDotted moduleName)
    (name : String) : (candidates moduleName name).head? = some (sourceFile moduleName) := by
  rw [hname.candidates_eq, sourceFile_eq]
  rfl

end Python.ModuleName

end SymbolGraph
