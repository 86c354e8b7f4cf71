import SymbolGraph.Proofs.Path.Walk
import SymbolGraph.Proofs.Python.ModuleName
import SymbolGraph.Proofs.Text.Words
import SymbolGraph.Resolution.Imports

/-!
# Packages and the files of their modules

A Python file in directories without dots has the module name that its directories and its stem
spell, where `__init__` stands for the directory (`ModuleFile.ofPath_path`). Going back from the
name, the file is one of those that an import of its module may be taken from, unless it is the stub
of a package (`mem_importCandidates_ofPath_iff`): such a stub is looked for at the root only
(`packageStub_not_mem_importCandidates`).

The directories are the file's package (`ModuleFile.package_path`). A relative import climbs from
there as a relative path does from the directory of the file, and both leave the repository
together (`absolute?_map_slashed`).
-/

set_option autoImplicit false
set_option relaxedAutoImplicit false

namespace SymbolGraph

namespace Python.ModuleName

/-! ### Parts of module names -/

/-- The text is a part of a module name, and an entry of a directory. -/
structure IsPart (part : String) : Prop where
  ne_empty : part ≠ ""
  not_mem_dot : '.' ∉ part.toList
  not_mem_slash : '/' ∉ part.toList

instance {part : String} : Decidable (IsPart part) :=
  decidable_of_iff (part ≠ "" ∧ '.' ∉ part.toList ∧ '/' ∉ part.toList)
    ⟨fun ⟨hempty, hdot, hslash⟩ ↦ ⟨hempty, hdot, hslash⟩,
      fun hpart ↦ ⟨hpart.ne_empty, hpart.not_mem_dot, hpart.not_mem_slash⟩⟩

theorem IsPart.isEntry {part : String} (hpart : IsPart part) : Path.IsEntry part where
  ne_empty := hpart.ne_empty
  ne_here := by
    rintro rfl
    exact hpart.not_mem_dot (by decide)
  not_mem := hpart.not_mem_slash
  ne_up := by
    rintro rfl
    exact hpart.not_mem_dot (by decide)

section Parts

variable {parts : List String}

theorem slashed_of_not_mem {text : String} (hnone : '.' ∉ text.toList) : slashed text = text := by
  rw [slashed, map_of_not_mem hnone, String.ofList_toList]

theorem slashed_append (before after : String) :
    slashed (before ++ after) = slashed before ++ slashed after := by
  rw [slashed, String.toList_append, List.map_append, String.ofList_append, slashed, slashed]

/-- Parts that are joined by dots become parts that are joined by slashes. -/
theorem slashed_join (hparts : ∀ part ∈ parts, '.' ∉ part.toList) :
    slashed (Text.join "." parts) = Text.join "/" parts := by
  induction parts with
  | nil => rfl
  | cons first rest ih =>
    obtain ⟨hfirst, hrest⟩ := List.forall_mem_cons.mp hparts
    by_cases hnil : rest = []
    · rw [hnil, Text.join, Text.join, String.intercalate_singleton, String.intercalate_singleton,
        slashed_of_not_mem hfirst]
    · have hdot : slashed "." = "/" := by decide
      rw [Text.join, Text.join, String.intercalate_cons_of_ne_nil hnil,
        String.intercalate_cons_of_ne_nil hnil, slashed_append, slashed_append,
        slashed_of_not_mem hfirst, hdot]
      exact congrArg _ (ih hrest)

theorem joined?_map_slashed (hparts : ∀ part ∈ parts, '.' ∉ part.toList) :
    (Text.joined? "." parts).map slashed = Text.joined? "/" parts := by
  by_cases hnil : parts = []
  · rw [hnil]
    rfl
  · rw [Text.joined?_of_ne_nil hnil, Text.joined?_of_ne_nil hnil, Option.map_some,
      slashed_join hparts]

theorem split_join_parts (hparts : ∀ part ∈ parts, IsPart part) (hne : parts ≠ []) :
    Text.split '.' (Text.join "." parts) = parts :=
  Text.split_join (fun part hpart ↦ (hparts part hpart).not_mem_dot) hne

/-- The parts that are not empty are the ones that were joined. -/
theorem filter_split_join (hparts : ∀ part ∈ parts, IsPart part) :
    (Text.split '.' (Text.join "." parts)).filter (· ≠ "") = parts := by
  by_cases hnil : parts = []
  · subst hnil
    decide
  · rw [split_join_parts hparts hnil]
    exact List.filter_eq_self.mpr fun part hpart ↦ decide_eq_true (hparts part hpart).ne_empty

/-- A character of joined parts that is no dot is in one of them. -/
theorem exists_mem_of_mem_join (hparts : ∀ part ∈ parts, IsPart part) {character : Char}
    (hmem : character ∈ (Text.join "." parts).toList) (hother : character ≠ '.') :
    ∃ part ∈ parts, character ∈ part.toList := by
  by_cases hnil : parts = []
  · subst hnil
    cases hmem
  · obtain ⟨piece, hpiece, hin⟩ := Text.exists_mem_pieces hmem hother
    refine ⟨String.ofList piece, ?_, by rwa [String.toList_ofList]⟩
    rw [← split_join_parts hparts hnil]
    exact List.mem_map_of_mem hpiece

theorem isDotted_join (hparts : ∀ part ∈ parts, IsPart part) (hne : parts ≠ []) :
    IsDotted (Text.join "." parts) where
  ne_empty := by
    rw [split_join_parts hparts hne]
    exact fun part hpart ↦ (hparts part hpart).ne_empty
  not_mem := by
    intro hslash
    obtain ⟨part, hpart, hin⟩ := exists_mem_of_mem_join hparts hslash (by decide)
    exact (hparts part hpart).not_mem_slash hin

/-- Joined parts begin with a part, and not with a dot. -/
theorem head?_join_ne (hparts : ∀ part ∈ parts, IsPart part) :
    (Text.join "." parts).toList.head? ≠ some '.' := by
  intro hhead
  by_cases hnil : parts = []
  · subst hnil
    cases hhead
  · obtain ⟨rest, htext⟩ := List.head?_eq_some_iff.mp hhead
    have hempty : "" ∈ Text.split '.' (Text.join "." parts) := by
      rw [Text.split, htext]
      exact List.mem_cons_self
    rw [split_join_parts hparts hnil] at hempty
    exact (hparts "" hempty).ne_empty rfl

end Parts

/-! ### Module files -/

/-- A Python file whose directories and stem are names without dots, and none of whose directories
is called like a file that stands for its directory. -/
structure ModuleFile where
  directories : List String
  stem : String
  extension : String
  isPart_directory : ∀ directory ∈ directories, IsPart directory
  directory_ne : ∀ directory ∈ directories, directory ≠ initStem
  isPart_stem : IsPart stem
  extension_mem : extension ∈ Language.python.extensions

namespace ModuleFile

variable (file : ModuleFile)

/-- The name of the file in its directory. -/
def fileName : String :=
  file.stem ++ "." ++ file.extension

/-- The path of the file from the root of the repository. -/
def path : String :=
  Text.join "/" (file.directories ++ [file.fileName])

/-- The parts of the module name, none for the file that stands for the root. -/
def parts : List String :=
  if file.stem = initStem then file.directories else file.directories ++ [file.stem]

theorem extension_cases : file.extension = "py" ∨ file.extension = "pyi" := by
  simpa [Language.extensions] using file.extension_mem

theorem cutExtension_fileName :
    Path.cutExtension file.fileName = (file.stem, some file.extension) := by
  refine Path.cutExtension_append file.isPart_stem.ne_empty ?_
  rcases file.extension_cases with hextension | hextension <;>
  · rw [hextension]
    decide

theorem isEntry_fileName : Path.IsEntry file.fileName := by
  have hdots : file.fileName.toList = file.stem.toList ++ '.' :: file.extension.toList := by
    simp [fileName]
  have hname : Path.IsName file.fileName := by
    rcases file.extension_cases with hextension | hextension
    · have hlast : file.fileName.toList.getLast? = some 'y' := by
        rw [hdots, List.getLast?_append, hextension]
        rfl
      exact Path.isName_of_getLast? hlast (by decide)
    · have hlast : file.fileName.toList.getLast? = some 'i' := by
        rw [hdots, List.getLast?_append, hextension]
        rfl
      exact Path.isName_of_getLast? hlast (by decide)
  refine ⟨⟨hname.ne_empty, hname.ne_here, ?_⟩, hname.ne_up⟩
  rw [hdots, List.mem_append, List.mem_cons, not_or, not_or]
  refine ⟨file.isPart_stem.not_mem_slash, by decide, ?_⟩
  rcases file.extension_cases with hextension | hextension <;>
  · rw [hextension]
    decide

theorem isEntry_names : ∀ name ∈ file.directories ++ [file.fileName], Path.IsEntry name :=
  List.forall_mem_append.mpr ⟨fun directory hdirectory ↦
    (file.isPart_directory directory hdirectory).isEntry,
    List.forall_mem_singleton.mpr file.isEntry_fileName⟩

theorem isCanonical_path : Path.IsCanonical file.path := by
  refine Path.isCanonical_join ?_ (List.append_ne_nil_of_right_ne_nil _ (List.cons_ne_nil _ _))
  exact file.isEntry_names

theorem segments_path : Path.segments file.path = file.directories ++ [file.fileName] :=
  Path.segments_join fun name hname ↦ (file.isEntry_names name hname).toIsSegment

theorem segments_parent : Path.segments (Path.parent file.path) = file.directories := by
  rw [file.isCanonical_path.segments_parent, file.segments_path, List.dropLast_concat]

theorem fileName?_path : Path.fileName? file.path = some file.fileName := by
  rw [Path.fileName?, file.isCanonical_path.components_eq, file.segments_path, List.map_append,
    List.getLast?_append]
  rfl

/-- The path is that of the module, with the extension behind it. -/
theorem path_eq : file.path =
    Text.join "/" (file.directories ++ [file.stem]) ++ ("." ++ file.extension) := by
  unfold path fileName
  by_cases hnil : file.directories = []
  · rw [hnil, List.nil_append, List.nil_append, Text.join, Text.join,
      String.intercalate_singleton, String.intercalate_singleton, String.append_assoc]
  · rw [Text.join_concat hnil, Text.join_concat hnil]
    simp only [String.append_assoc]

/-- In a directory that is not the root, the path is that of the directory with the file name behind
it. -/
theorem path_eq_of_nested (hnested : file.directories ≠ []) :
    file.path = Text.join "/" file.directories ++ ("/" ++ file.fileName) := by
  rw [path, Text.join_concat hnested, String.append_assoc]

/-! ### The name and the package of a module file -/

theorem stem?_fileName : Path.stem? file.fileName = some file.stem := by
  have hentry : ∀ name ∈ [file.fileName], Path.IsEntry name :=
    List.forall_mem_singleton.mpr file.isEntry_fileName
  have hjoin : Text.join "/" [file.fileName] = file.fileName := String.intercalate_singleton
  have hcanonical := Path.isCanonical_join hentry (List.cons_ne_nil _ _)
  have hsegments := Path.segments_join fun name hname ↦ (hentry name hname).toIsSegment
  rw [hjoin] at hcanonical hsegments
  rw [Path.stem?, Path.fileName?, hcanonical.components_eq, hsegments]
  exact congrArg (fun cut ↦ some cut.1) file.cutExtension_fileName

/-- The module of the file is called like its directories and its stem. The stem of a file that
stands for its directory is left out, unless the directory is the root. -/
theorem ofPath_path : ofPath file.path = (Text.joined? "." file.parts).getD initStem := by
  have hparts : (Path.components file.path).map part = file.directories ++ [file.fileName] := by
    rw [file.isCanonical_path.components_eq, file.segments_path, List.map_map]
    exact List.map_id _
  unfold ofPath
  dsimp only
  rw [hparts, List.getLast?_concat, Option.getD_some, file.stem?_fileName, Option.getD_some,
    List.dropLast_concat, ← parts]
  cases file.parts with
  | nil => rfl
  | cons first others => rfl

theorem isPart_concat : ∀ part ∈ file.directories ++ [file.stem], IsPart part :=
  List.forall_mem_append.mpr
    ⟨file.isPart_directory, List.forall_mem_singleton.mpr file.isPart_stem⟩

theorem ofPath_path_of_ne (hstem : file.stem ≠ initStem) :
    ofPath file.path = Text.join "." (file.directories ++ [file.stem]) := by
  rw [file.ofPath_path, parts, if_neg hstem, Text.joined?_of_ne_nil (by simp), Option.getD_some]

theorem ofPath_path_of_package (hstem : file.stem = initStem) (hnested : file.directories ≠ []) :
    ofPath file.path = Text.join "." file.directories := by
  rw [file.ofPath_path, parts, if_pos hstem, Text.joined?_of_ne_nil hnested, Option.getD_some]

theorem ofPath_path_of_root (hstem : file.stem = initStem) (hroot : file.directories = []) :
    ofPath file.path = initStem := by
  rw [file.ofPath_path, parts, if_pos hstem, hroot]
  rfl

theorem fileName_eq_iff {extension : String} (hextension : '.' ∉ extension.toList) :
    file.fileName = initStem ++ "." ++ extension ↔
      file.stem = initStem ∧ file.extension = extension := by
  constructor
  · intro hsame
    have hcut := file.cutExtension_fileName
    rw [hsame, Path.cutExtension_append (by decide) hextension] at hcut
    obtain ⟨hstem, hlast⟩ := Prod.mk.inj hcut
    exact ⟨hstem.symm, (Option.some.inj hlast).symm⟩
  · rintro ⟨hstem, hlast⟩
    rw [fileName, hstem, hlast]

/-- The file stands for its directory when its stem says so. -/
theorem any_fileName?_iff :
    ((Path.fileName? file.path).any fun name ↦
      name == initStem ++ ".py" || name == initStem ++ ".pyi") = true ↔
      file.stem = initStem := by
  have hpy : file.fileName = initStem ++ ".py" ↔ file.stem = initStem ∧ file.extension = "py" :=
    @fileName_eq_iff file "py" (by decide)
  have hpyi : file.fileName = initStem ++ ".pyi" ↔ file.stem = initStem ∧ file.extension = "pyi" :=
    @fileName_eq_iff file "pyi" (by decide)
  rw [file.fileName?_path, Option.any_some, Bool.or_eq_true, beq_iff_eq, beq_iff_eq, hpy, hpyi,
    ← and_or_left]
  exact and_iff_left file.extension_cases

/-- The package of the file is made of its directories. -/
theorem package_path : package file.path (ofPath file.path) = file.directories := by
  have hkept : ∀ parts : List String, (∀ part ∈ parts, IsPart part) →
      (∀ part ∈ parts, part ≠ initStem) → parts ≠ [] →
      ((Text.split '.' (Text.join "." parts)).filter fun part ↦ part ≠ "" ∧ part ≠ initStem) =
        parts := by
    intro parts hparts hinit hne
    rw [split_join_parts hparts hne]
    exact List.filter_eq_self.mpr fun part hpart ↦
      decide_eq_true ⟨(hparts part hpart).ne_empty, hinit part hpart⟩
  unfold package
  dsimp only
  by_cases hstem : file.stem = initStem
  · rw [if_pos (file.any_fileName?_iff.mpr hstem)]
    by_cases hroot : file.directories = []
    · rw [file.ofPath_path_of_root hstem hroot, hroot]
      decide
    · rw [file.ofPath_path_of_package hstem hroot]
      exact hkept _ file.isPart_directory file.directory_ne hroot
  · have hinit : ∀ part ∈ file.directories ++ [file.stem], part ≠ initStem :=
      List.forall_mem_append.mpr ⟨file.directory_ne, List.forall_mem_singleton.mpr hstem⟩
    rw [if_neg (mt file.any_fileName?_iff.mp hstem), file.ofPath_path_of_ne hstem,
      hkept _ file.isPart_concat hinit (by simp), List.dropLast_concat]

end ModuleFile

/-- The path is that of a Python file in a repository. Its directories and its stem have no dots,
and no directory is called like a file that stands for its directory. -/
structure IsModuleFile (path : String) : Prop where
  isCanonical : Path.IsCanonical path
  language : Language.ofPath? path = some .python
  directory : ∀ directory ∈ Path.segments (Path.parent path),
    '.' ∉ directory.toList ∧ directory ≠ initStem
  stem : ∀ stem ∈ Path.stem? path, '.' ∉ stem.toList

instance {path : String} : Decidable (IsModuleFile path) :=
  decidable_of_iff (Path.IsCanonical path ∧ Language.ofPath? path = some .python ∧
      (∀ directory ∈ Path.segments (Path.parent path),
        '.' ∉ directory.toList ∧ directory ≠ initStem) ∧
      ∀ stem ∈ Path.stem? path, '.' ∉ stem.toList)
    ⟨fun ⟨hcanonical, hlanguage, hdirectory, hstem⟩ ↦ ⟨hcanonical, hlanguage, hdirectory, hstem⟩,
      fun hfile ↦ ⟨hfile.isCanonical, hfile.language, hfile.directory, hfile.stem⟩⟩

/-- Such a path is the path of a module file. -/
theorem IsModuleFile.exists_moduleFile {path : String} (hpath : IsModuleFile path) :
    ∃ file : ModuleFile, file.path = path := by
  obtain ⟨extension, hextension, hknown⟩ := Option.bind_eq_some_iff.mp hpath.language
  obtain ⟨stem, hstem, hne, hsegments⟩ := hpath.isCanonical.exists_stem hextension
  have hentry := hpath.isCanonical.isEntry
  rw [hsegments, List.forall_mem_append, List.forall_mem_singleton] at hentry
  obtain ⟨hdirectories, hfileName⟩ := hentry
  have hslash : '/' ∉ stem.toList := fun hmem ↦ hfileName.not_mem (by simp [hmem])
  have hpython := List.find?_some hknown
  let file : ModuleFile :=
    { directories := Path.segments (Path.parent path)
      stem := stem
      extension := extension
      isPart_directory := fun directory hdirectory ↦
        ⟨(hdirectories directory hdirectory).ne_empty, (hpath.directory directory hdirectory).1,
          (hdirectories directory hdirectory).not_mem⟩
      directory_ne := fun directory hdirectory ↦ (hpath.directory directory hdirectory).2
      isPart_stem := ⟨hne, hpath.stem stem hstem, hslash⟩
      extension_mem := List.contains_iff_mem.mp hpython }
  have hjoined := hpath.isCanonical.joined?_segments
  rw [hsegments, Text.joined?_of_ne_nil (by simp)] at hjoined
  exact ⟨file, Option.some.inj hjoined⟩

/-! ### From the name back to the file -/

theorem ne_append_py (stub script : String) : stub ++ ".pyi" ≠ script ++ ".py" := by
  intro hsame
  have hlast := congrArg (fun text : String ↦ text.toList.getLast?) hsame
  simp [List.getLast?_append] at hlast

/-- Of the files that an import of a module may be taken from, only one is a stub. -/
theorem eq_or_exists_of_mem_candidates {moduleName name candidate : String}
    (hname : IsDotted moduleName) (hcandidate : candidate ∈ candidates moduleName name) :
    candidate = slashed moduleName ++ ".pyi" ∨ ∃ script, candidate = script ++ ".py" := by
  rw [hname.candidates_eq] at hcandidate
  rcases List.mem_append.mp hcandidate with hown | hbelow
  · simp only [List.mem_cons, List.not_mem_nil, or_false] at hown
    rcases hown with rfl | rfl | rfl
    · exact Or.inr ⟨slashed moduleName, rfl⟩
    · exact Or.inl rfl
    · refine Or.inr ⟨slashed moduleName ++ "/__init__", ?_⟩
      rw [String.append_assoc]
      rfl
  · split at hbelow
    · cases hbelow
    · simp only [List.mem_cons, List.not_mem_nil, or_false] at hbelow
      rcases hbelow with rfl | rfl
      · exact Or.inr ⟨slashed moduleName ++ "/" ++ name, rfl⟩
      · refine Or.inr ⟨slashed moduleName ++ "/" ++ name ++ "/__init__", ?_⟩
        simp only [String.append_assoc]
        rfl

/-- Nor is any of them the stub of a package. -/
theorem packageStub_not_mem_candidates {moduleName : String} (hname : IsDotted moduleName)
    (name : String) : slashed moduleName ++ "/__init__.pyi" ∉ candidates moduleName name := by
  intro hmem
  rcases eq_or_exists_of_mem_candidates hname hmem with hstub | ⟨script, hscript⟩
  · have hlists := congrArg String.toList hstub
    simp at hlists
  · refine ne_append_py (slashed moduleName ++ "/__init__") script ?_
    rw [← hscript, String.append_assoc]
    rfl

namespace ModuleFile

variable (file : ModuleFile)

/-- A file that is called like its module may be meant by an import of the module. -/
theorem path_mem_candidates {moduleName : String} (hname : IsDotted moduleName)
    (hslashed : slashed moduleName = Text.join "/" (file.directories ++ [file.stem]))
    (name : String) : file.path ∈ candidates moduleName name := by
  rw [hname.candidates_eq, hslashed, file.path_eq]
  refine List.mem_append_left _ ?_
  rcases file.extension_cases with hextension | hextension
  · rw [hextension]
    exact List.mem_cons_self
  · rw [hextension]
    exact List.mem_cons_of_mem _ List.mem_cons_self

/-- The file of a package may be meant by an import of the package, unless it is a stub. -/
theorem path_mem_candidates_iff_of_package (hstem : file.stem = initStem)
    (hnested : file.directories ≠ []) (name : String) :
    file.path ∈ candidates (ofPath file.path) name ↔ file.extension ≠ "pyi" := by
  have hdotted := isDotted_join file.isPart_directory hnested
  have hslashed : slashed (Text.join "." file.directories) = Text.join "/" file.directories :=
    slashed_join fun part hpart ↦ (file.isPart_directory part hpart).not_mem_dot
  rw [file.ofPath_path_of_package hstem hnested, file.path_eq_of_nested hnested, fileName, hstem,
    ← hslashed]
  rcases file.extension_cases with hextension | hextension
  · rw [hextension, hdotted.candidates_eq]
    refine iff_of_true (List.mem_append_left _ ?_) (by decide)
    exact List.mem_cons_of_mem _ (List.mem_cons_of_mem _ List.mem_cons_self)
  · rw [hextension]
    exact iff_of_false (packageStub_not_mem_candidates hdotted name) (not_not.mpr rfl)

/-- The file may be meant by an import of its module, unless it is the stub of a package in some
directory. -/
theorem path_mem_candidates_iff (name : String) : file.path ∈ candidates (ofPath file.path) name ↔
    ¬ (file.fileName = "__init__.pyi" ∧ file.directories ≠ []) := by
  have hstub : file.fileName = "__init__.pyi" ↔ file.stem = initStem ∧ file.extension = "pyi" :=
    @fileName_eq_iff file "pyi" (by decide)
  have hslashed := slashed_join fun part hpart ↦ (file.isPart_concat part hpart).not_mem_dot
  have hdotted := isDotted_join file.isPart_concat (by simp)
  rw [hstub]
  by_cases hstem : file.stem = initStem
  · by_cases hroot : file.directories = []
    · have hname : initStem = Text.join "." (file.directories ++ [file.stem]) := by
        rw [hroot, hstem]
        exact String.intercalate_singleton.symm
      rw [file.ofPath_path_of_root hstem hroot]
      rw [← hname] at hslashed hdotted
      exact iff_of_true (file.path_mem_candidates hdotted hslashed name) fun hboth ↦ hboth.2 hroot
    · rw [file.path_mem_candidates_iff_of_package hstem hroot]
      simp [hstem, hroot]
  · rw [file.ofPath_path_of_ne hstem]
    exact iff_of_true (file.path_mem_candidates hdotted hslashed name) fun hboth ↦
      hstem hboth.1.1

end ModuleFile

/-- A Python file may be meant by an import of its module, whichever file imports whatever name,
unless it is the stub of a package in some directory. -/
theorem mem_importCandidates_ofPath_iff {path : String} (hpath : IsModuleFile path)
    (importing name : String) :
    path ∈ Language.python.importCandidates importing (ofPath path) name ↔
      ¬ (Path.fileName? path = some "__init__.pyi" ∧ Path.segments (Path.parent path) ≠ []) := by
  obtain ⟨file, rfl⟩ := hpath.exists_moduleFile
  rw [file.fileName?_path, file.segments_parent, Option.some_inj]
  exact file.path_mem_candidates_iff name

/-- The file of a nested package may be meant by an import of the package. -/
theorem mem_importCandidates_ofPath_package :
    IsModuleFile "pkg/sub/__init__.py" ∧
      "pkg/sub/__init__.py" ∈ Language.python.importCandidates "app.py"
        (ofPath "pkg/sub/__init__.py") "run" := by
  have hpath : IsModuleFile "pkg/sub/__init__.py" := by decide
  exact ⟨hpath, (mem_importCandidates_ofPath_iff hpath "app.py" "run").mpr (by decide)⟩

/-- The stub of a package is not among the files that an import of the package may mean. -/
theorem packageStub_not_mem_importCandidates :
    IsModuleFile "pkg/__init__.pyi" ∧
      "pkg/__init__.pyi" ∉ Language.python.importCandidates "app.py"
        (ofPath "pkg/__init__.pyi") "run" := by
  decide

/-! ### Relative imports -/

/-- The text is a part of a module name as it is written in a program. -/
structure IsIdentifier (part : String) : Prop extends IsPart part where
  isBlank_eq : ∀ character ∈ part.toList, Text.isBlank character = false

instance {part : String} : Decidable (IsIdentifier part) :=
  have : Decidable (∀ character ∈ part.toList, Text.isBlank character = false) :=
    List.decidableBAll _ _
  decidable_of_iff (IsPart part ∧ ∀ character ∈ part.toList, Text.isBlank character = false)
    ⟨fun ⟨hpart, hblank⟩ ↦ ⟨hpart, hblank⟩, fun hpart ↦ ⟨hpart.toIsPart, hpart.isBlank_eq⟩⟩

/-- A relative module as it is written: dots and the parts below them. -/
def written (dots : Nat) (below : List String) : String :=
  String.ofList (List.replicate dots '.') ++ Text.join "." below

section Relative

variable {below : List String}

/-- A text without blanks stays as it is. -/
theorem trim_of_forall {text : List Char}
    (htext : ∀ character ∈ text, Text.isBlank character = false) : Text.trim text = text := by
  have hstart : Text.trimStart text = text := by
    cases text with
    | nil => rfl
    | cons first others =>
      refine List.dropWhile_cons_of_neg ?_
      simp [htext first List.mem_cons_self]
  have hend := Text.trimEnd_append htext []
  rw [List.append_nil] at hend
  rw [Text.trim, hstart, hend]
  exact List.append_nil text

/-- Nothing is trimmed from a relative module that is written as it should be. -/
theorem trim_written (hbelow : ∀ part ∈ below, IsIdentifier part) (dots : Nat) :
    Text.trim (written dots below).toList =
      List.replicate dots '.' ++ (Text.join "." below).toList := by
  have htext : (written dots below).toList =
      List.replicate dots '.' ++ (Text.join "." below).toList := by
    rw [written, String.toList_append, String.toList_ofList]
  rw [htext]
  refine trim_of_forall fun character hmem ↦ ?_
  by_cases hdot : character = '.'
  · rw [hdot]
    decide
  · rcases List.mem_append.mp hmem with hdots | hjoined
    · exact absurd (List.eq_of_mem_replicate hdots) hdot
    · have hparts : ∀ part ∈ below, IsPart part := fun part hpart ↦ (hbelow part hpart).toIsPart
      obtain ⟨part, hpart, hin⟩ := exists_mem_of_mem_join hparts hjoined hdot
      exact (hbelow part hpart).isBlank_eq character hin

theorem leadingDots_append (dots : Nat) {rest : List Char} (hrest : rest.head? ≠ some '.') :
    leadingDots (List.replicate dots '.' ++ rest) = dots := by
  have hnone : rest.takeWhile (· = '.') = [] := by
    cases rest with
    | nil => rfl
    | cons first others =>
      exact List.takeWhile_cons_of_neg (by simpa using hrest)
  have hall : ∀ character ∈ List.replicate dots '.', decide (character = '.') = true :=
    fun character hmem ↦ decide_eq_true (List.eq_of_mem_replicate hmem)
  rw [leadingDots, List.takeWhile_append_of_pos hall, hnone, List.append_nil,
    List.length_replicate]

/-- The first dot stands for the package itself, and each further dot climbs one part. What is
written behind the dots lies below what is left. -/
theorem absolute?_written (hbelow : ∀ part ∈ below, IsIdentifier part) (count : Nat)
    (base : List String) : absolute? (written (count + 1) below) base =
      if base.length < count then none
      else Text.joined? "." (base.take (base.length - count) ++ below) := by
  have hparts : ∀ part ∈ below, IsPart part := fun part hpart ↦ (hbelow part hpart).toIsPart
  have htext := trim_written hbelow (count + 1)
  have hdots := leadingDots_append (count + 1) (head?_join_ne hparts)
  have hrest : (List.replicate (count + 1) '.' ++ (Text.join "." below).toList).drop (count + 1) =
      (Text.join "." below).toList := List.drop_left' List.length_replicate
  unfold absolute?
  rw [htext]
  split
  · rename_i hempty
    simp at hempty
  · dsimp only
    rw [hdots, if_neg (Nat.succ_ne_zero count), Nat.add_sub_cancel, hrest, String.ofList_toList,
      filter_split_join hparts]
    refine if_congr Iff.rfl rfl ?_
    cases base.take (base.length - count) ++ below with
    | nil => rfl
    | cons first others => rfl

end Relative

/-- A relative import climbs from the package of a file as a relative path does from the directory
of the file, and goes down along the same names; when one of them leaves the repository or ends at
its root, so does the other. -/
theorem absolute?_map_slashed {path : String} (hpath : IsModuleFile path) (count : Nat)
    {below : List String} (hbelow : ∀ part ∈ below, IsIdentifier part) :
    (absolute? (written (count + 1) below) (package path (ofPath path))).map slashed =
      Path.join? (Path.parent path) (Path.climb count (Text.join "/" below)) := by
  obtain ⟨file, rfl⟩ := hpath.exists_moduleFile
  have hentry : ∀ part ∈ below, Path.IsEntry part := fun part hpart ↦ (hbelow part hpart).isEntry
  have hsegments : Path.segments (Path.climb count (Text.join "/" below)) =
      List.replicate count ".." ++ below := by
    rw [Path.segments_climb, Path.segments_join fun part hpart ↦ (hentry part hpart).toIsSegment]
  rw [file.package_path, absolute?_written hbelow, Path.join?_of_segments hsegments hentry,
    file.segments_parent]
  split
  · rfl
  · refine joined?_map_slashed fun part hpart ↦ ?_
    rcases List.mem_append.mp hpart with hdirectory | hmem
    · exact (file.isPart_directory part (List.mem_of_mem_take hdirectory)).not_mem_dot
    · exact (hbelow part hmem).not_mem_dot

/-- Two dots in the stub of a nested package mean the package around it. -/
theorem absolute?_map_slashed_nestedPackage :
    IsModuleFile "pkg/sub/__init__.pyi" ∧ (∀ part ∈ ["core", "engine"], IsIdentifier part) ∧
      written 2 ["core", "engine"] = "..core.engine" ∧
      (absolute? "..core.engine" (package "pkg/sub/__init__.pyi"
        (ofPath "pkg/sub/__init__.pyi"))).map slashed =
          Path.join? "pkg/sub" "../core/engine" := by
  have hpath : IsModuleFile "pkg/sub/__init__.pyi" := by decide
  have hbelow : ∀ part ∈ ["core", "engine"], IsIdentifier part := by decide
  have hclimb := absolute?_map_slashed hpath 1 hbelow
  have hwritten : written 2 ["core", "engine"] = "..core.engine" := by decide
  have hparent : Path.parent "pkg/sub/__init__.pyi" = "pkg/sub" := by decide
  have hrelative : Path.climb 1 (Text.join "/" ["core", "engine"]) = "../core/engine" := by decide
  rw [hwritten, hparent, hrelative] at hclimb
  exact ⟨hpath, hbelow, hwritten, hclimb⟩

end Python.ModuleName

end SymbolGraph
