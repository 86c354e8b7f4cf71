import SymbolGraph.Proofs.Path.Walk
import SymbolGraph.Resolution.Imports

/-!
# Relative specifiers and the files they lead to

The relative specifier of a file climbs from the directory of the importing file to the innermost
directory around both, and goes down from there (`wayTo`, `relative`). It leads back to the file,
however the importing file is placed, and a specifier that is spelled with more slashes or `.`
segments leads there too (`Spells.join?_eq`). So the specifier of a script means this script and no
other file (`importCandidates_relative`).

The specifier of a directory means the `index.js` inside it, with two exceptions: the root of the
repository is not a place that a specifier leads to, and a directory whose name ends like that of a
script is taken for one (`index_not_mem_importCandidates`).
-/

set_option autoImplicit false
set_option relaxedAutoImplicit false

namespace SymbolGraph

theorem Language.ofPath?_eq_javaScript_iff {path : String} :
    ofPath? path = some .javaScript ↔
      (Path.extension? path).any javaScript.extensions.contains = true := by
  unfold ofPath?
  cases Path.extension? path with
  | none => simp
  | some extension =>
    rw [Option.bind_some, Option.any_some, all, List.find?_cons]
    cases javaScript.extensions.contains extension with
    | true => simp
    | false =>
      refine iff_of_false (fun hfound ↦ ?_) Bool.false_ne_true
      cases List.mem_singleton.mp (List.mem_of_find?_eq_some hfound)

namespace JavaScript.Specifier

/-! ### Ways -/

/-- The way from one place to another one: how many directories it climbs, and the entries it then
goes down along. -/
def wayTo : List String → List String → Nat × List String
  | first :: others, next :: rest =>
    if first = next then wayTo others rest else (others.length + 1, next :: rest)
  | place, target => (place.length, target)

/-- The way climbs out of what is not around both places, and goes down into what is not around
both. -/
theorem exists_around_wayTo (place target : List String) : ∃ around left,
    place = around ++ left ∧ (wayTo place target).1 = left.length ∧
      target = around ++ (wayTo place target).2 := by
  fun_induction wayTo place target with
  | case1 others next rest ih =>
    obtain ⟨around, left, hplace, hcount, htarget⟩ := ih
    exact ⟨next :: around, left, congrArg (next :: ·) hplace, hcount,
      congrArg (next :: ·) htarget⟩
  | case2 first others next rest => exact ⟨[], first :: others, rfl, rfl, rfl⟩
  | case3 place target => exact ⟨[], place, rfl, rfl, rfl⟩

/-- The relative specifier that leads from a directory to a place: `./` or as many `../` as the way
climbs, and what it goes down along. -/
def relative (directory target : List String) : String :=
  match wayTo directory target with
  | (0, below) => "./" ++ Text.join "/" below
  | (count, below) => Path.climb count (Text.join "/" below)

/-- The specifier is relative and has the segments of another one. -/
structure Spells (specifier canonical : String) : Prop where
  head? : specifier.toList.head? = some '.'
  segments : Path.segments specifier = Path.segments canonical

theorem head?_relative (directory target : List String) :
    (relative directory target).toList.head? = some '.' := by
  unfold relative
  split
  · rw [String.toList_append]
    rfl
  · rename_i count below hcount _
    obtain ⟨fewer, rfl⟩ := Nat.exists_eq_succ_of_ne_zero hcount
    rw [Path.climb, String.toList_append]
    rfl

theorem Spells.refl (directory target : List String) :
    Spells (relative directory target) (relative directory target) :=
  ⟨head?_relative directory target, rfl⟩

/-- The segments of the specifier are the steps of the way. -/
theorem segments_relative {directory target : List String}
    (htarget : ∀ name ∈ target, Path.IsEntry name) :
    Path.segments (relative directory target) =
      List.replicate (wayTo directory target).1 ".." ++ (wayTo directory target).2 := by
  obtain ⟨around, left, -, -, hway⟩ := exists_around_wayTo directory target
  have hbelow : Path.segments (Text.join "/" (wayTo directory target).2) =
      (wayTo directory target).2 :=
    Path.segments_join fun name hname ↦
      (htarget name (hway ▸ List.mem_append_right around hname)).toIsSegment
  unfold relative
  split
  · rename_i below hzero
    rw [hzero] at hbelow ⊢
    have hhere : Path.segments "." = [] := by decide
    rw [show "./" = "." ++ "/" from rfl, Path.segments_append, hhere, hbelow]
    rfl
  · rename_i count below _ hsome
    rw [hsome] at hbelow ⊢
    rw [Path.segments_climb, hbelow]

/-- However it is spelled, the specifier leads to the place. -/
theorem Spells.join?_eq {base specifier : String} {target : List String}
    (hspells : Spells specifier (relative (Path.segments base) target))
    (htarget : ∀ name ∈ target, Path.IsEntry name) :
    Path.join? base specifier = Text.joined? "/" target := by
  obtain ⟨around, left, hbase, hcount, hway⟩ := exists_around_wayTo (Path.segments base) target
  have hbelow : ∀ name ∈ (wayTo (Path.segments base) target).2, Path.IsEntry name :=
    fun name hname ↦ htarget name (hway ▸ List.mem_append_right around hname)
  have hsegments := hspells.segments.trans (segments_relative htarget)
  have hlength : (Path.segments base).length = around.length + left.length := by
    rw [hbase, List.length_append]
  have hkept : (Path.segments base).take ((Path.segments base).length - left.length) = around := by
    rw [hlength, Nat.add_sub_cancel, hbase, List.take_left]
  rw [Path.join?_of_segments hsegments hbelow, hcount, if_neg (by omega), hkept, ← hway]

/-! ### Candidates -/

/-- A relative specifier that leads to no place means no file. -/
theorem candidates_of_none {importing specifier : String}
    (hjoin : Path.join? (Path.parent importing) specifier = none) :
    candidates importing specifier = [] := by
  unfold candidates
  split
  · rw [hjoin]
  · rfl

/-- What a relative specifier leads to is the only file it may mean when it is called like a script.
Otherwise scripts that are called like it may be meant, and the index file inside it. -/
theorem candidates_of_some {importing specifier base : String}
    (hhead : specifier.toList.head? = some '.')
    (hjoin : Path.join? (Path.parent importing) specifier = some base) :
    candidates importing specifier =
      if Language.ofPath? base = some .javaScript then [base]
      else Language.javaScript.extensions.map (fun extension ↦ base ++ "." ++ extension) ++
        [base ++ "/index.js"] := by
  unfold candidates
  split
  · rw [hjoin]
    exact if_congr Language.ofPath?_eq_javaScript_iff.symm rfl rfl
  · rename_i hother
    obtain ⟨first, rest, htext⟩ := List.exists_cons_of_ne_nil fun hnil : specifier.toList = [] ↦ by
      rw [hnil] at hhead
      cases hhead
    rw [htext] at hhead
    obtain rfl := Option.some.inj hhead
    exact absurd htext (hother rest)

/-- A script is the only file that its specifier may mean. -/
theorem candidates_of_spells {importing specifier target : String}
    (htarget : Path.IsCanonical target) (hscript : Language.ofPath? target = some .javaScript)
    (hspells : Spells specifier
      (relative (Path.segments (Path.parent importing)) (Path.segments target))) :
    candidates importing specifier = [target] := by
  have hjoin := (hspells.join?_eq htarget.isEntry).trans htarget.joined?_segments
  rw [candidates_of_some hspells.head? hjoin, if_pos hscript]

/-- The index file of a directory may be meant by the specifier of the directory, unless this is the
root or is called like a script. -/
theorem index_mem_candidates_iff {importing specifier : String} {directory : List String}
    (hdirectory : ∀ name ∈ directory, Path.IsEntry name)
    (hspells : Spells specifier (relative (Path.segments (Path.parent importing)) directory)) :
    Text.join "/" (directory ++ ["index.js"]) ∈ candidates importing specifier ↔
      directory ≠ [] ∧ Language.ofPath? (Text.join "/" directory) ≠ some .javaScript := by
  have hjoin := hspells.join?_eq hdirectory
  by_cases hroot : directory = []
  · rw [hroot] at hjoin
    rw [candidates_of_none hjoin]
    simp [hroot]
  · rw [Text.joined?_of_ne_nil hroot] at hjoin
    have hindex : Text.join "/" (directory ++ ["index.js"]) =
        Text.join "/" directory ++ "/index.js" := by
      rw [Text.join_concat hroot, String.append_assoc]
      rfl
    rw [candidates_of_some hspells.head? hjoin, hindex]
    split
    · rename_i hscript
      simp [hscript]
    · rename_i hother
      simp [hroot, hother]

/-- The relative specifier of a script means it and no other file, whichever file imports it. The
specifier of a directory may mean the index file inside it exactly when the directory is not the
root and is not called like a script. -/
theorem importCandidates_relative (importing name : String) {target : String}
    (htarget : Path.IsCanonical target) (hscript : Language.ofPath? target = some .javaScript) :
    let place := Path.segments (Path.parent importing)
    Language.javaScript.importCandidates importing (relative place (Path.segments target)) name =
      [target] ∧
    ∀ directory, Path.segments target = directory ++ ["index.js"] →
      ∀ specifier, Spells specifier (relative place directory) →
        (target ∈ Language.javaScript.importCandidates importing specifier name ↔
          directory ≠ [] ∧ Language.ofPath? (Text.join "/" directory) ≠ some .javaScript) := by
  intro place
  simp only [Language.importCandidates]
  refine ⟨candidates_of_spells htarget hscript (Spells.refl _ _), ?_⟩
  intro directory hindex specifier hspells
  have hdirectory : ∀ name ∈ directory, Path.IsEntry name := fun name hname ↦
    htarget.isEntry name (hindex ▸ List.mem_append_left _ hname)
  have hpath : target = Text.join "/" (directory ++ ["index.js"]) := by
    have hjoined := htarget.joined?_segments
    rw [hindex, Text.joined?_of_ne_nil (by simp)] at hjoined
    exact (Option.some.inj hjoined).symm
  rw [hpath]
  exact index_mem_candidates_iff hdirectory hspells

/-- A file in one directory imports the index file of another one by the name of the file, and by
the name of its directory with a slash and without. -/
theorem importCandidates_relative_otherDirectory :
    Path.IsCanonical "lib/index.js" ∧ Language.ofPath? "lib/index.js" = some .javaScript ∧
      Language.javaScript.importCandidates "web/app.js" "../lib/index.js" "parse" =
        ["lib/index.js"] ∧
      "lib/index.js" ∈ Language.javaScript.importCandidates "web/app.js" "../lib" "parse" ∧
      "lib/index.js" ∈ Language.javaScript.importCandidates "web/app.js" "../lib/" "parse" := by
  have htarget : Path.IsCanonical "lib/index.js" := by decide
  have hscript : Language.ofPath? "lib/index.js" = some .javaScript := by decide
  obtain ⟨hfile, hindex⟩ := importCandidates_relative "web/app.js" "parse" htarget hscript
  have hspecifier : relative (Path.segments (Path.parent "web/app.js"))
      (Path.segments "lib/index.js") = "../lib/index.js" := by decide
  rw [hspecifier] at hfile
  have hexists : ["lib"] ≠ [] ∧ Language.ofPath? (Text.join "/" ["lib"]) ≠ some .javaScript := by
    decide
  exact ⟨htarget, hscript, hfile,
    (hindex ["lib"] (by decide) "../lib" ⟨by decide, by decide⟩).mpr hexists,
    (hindex ["lib"] (by decide) "../lib/" ⟨by decide, by decide⟩).mpr hexists⟩

/-- The specifier of the root does not mean the index file there, and that of a directory which is
called like a script does not mean the index file inside it. -/
theorem index_not_mem_importCandidates :
    (Path.IsCanonical "index.js" ∧ Language.ofPath? "index.js" = some .javaScript ∧
      Path.segments "index.js" = [] ++ ["index.js"] ∧
      "index.js" ∉ Language.javaScript.importCandidates "web/app.js"
        (relative (Path.segments (Path.parent "web/app.js")) []) "parse") ∧
    (Path.IsCanonical "lib.js/index.js" ∧
      Language.ofPath? "lib.js/index.js" = some .javaScript ∧
      Path.segments "lib.js/index.js" = ["lib.js"] ++ ["index.js"] ∧
      "lib.js/index.js" ∉ Language.javaScript.importCandidates "app.js"
        (relative (Path.segments (Path.parent "app.js")) ["lib.js"]) "parse") := by
  decide

end JavaScript.Specifier

end SymbolGraph
