import SymbolGraph.Proofs.Pipeline.Faithfulness
import SymbolGraph.Proofs.Store.Query

/-!
# The names that stored imports bring

A file may import one name from one source more than once, each time under another local name. All
of its mentions of the name share a row, and the last of them says what the row brings
(`answersImports_file_storeAfter`). An earlier mention is found by its local name only if the last
one has the same (`not_isFound_earlierAlias`).
-/

set_option autoImplicit false
set_option relaxedAutoImplicit false

namespace SymbolGraph

/-- The name by which the file refers to what it mentions. -/
def ImportMention.localName (mention : ImportMention) : String :=
  mention.binding.getD mention.name

/-- A row of the answer has the source, the name and the local name of the mention. -/
def ImportMention.IsFound (rows : List Import) (mention : ImportMention) : Prop :=
  ∃ row ∈ rows, row.place = mention.place ∧ row.localName = mention.localName

instance {rows : List Import} {mention : ImportMention} : Decidable (mention.IsFound rows) :=
  inferInstanceAs (Decidable (∃ row ∈ rows, _))

/-- The last mention of a source and a name. -/
def lastOfPlace? (mentions : List ImportMention) (place : String × String) :
    Option ImportMention :=
  (mentions.filter fun mention ↦ mention.place = place).getLast?

/-- What the rows of a file tell of one of its mentions, when another one is the last of the same
source and name. -/
structure AnswersImport (rows : List Import) (mention last : ImportMention) : Prop where
  /-- One row, and no other, has the source and the name, and it says what the last mention says. -/
  row : ∃ row, rows.filter (fun other ↦ other.place = mention.place) = [row] ∧
    row.binding = last.binding ∧ row.line = last.line
  isFound_iff : mention.IsFound rows ↔ last.localName = mention.localName

section Last

variable {mentions : List ImportMention} {mention last : ImportMention} {place : String × String}

theorem place_of_lastOfPlace? (hlast : lastOfPlace? mentions place = some last) :
    last.place = place :=
  of_decide_eq_true (List.mem_filter.mp (List.mem_of_getLast? hlast)).2

/-- What is mentioned is mentioned a last time. -/
theorem exists_lastOfPlace? (hmention : mention ∈ mentions) :
    ∃ last, lastOfPlace? mentions mention.place = some last := by
  refine Option.isSome_iff_exists.mp (List.getLast?_isSome.mpr ?_)
  exact List.ne_nil_of_mem (List.mem_filter.mpr ⟨hmention, decide_eq_true rfl⟩)

/-- Where one row alone has the source and the name of a mention, and says what the last of its
mentions says, the mention is found if the last one has its local name. -/
theorem answersImport_of_row {rows : List Import} {row : Import}
    (hlast : lastOfPlace? mentions mention.place = some last)
    (hrow : rows.filter (fun other ↦ other.place = mention.place) = [row])
    (hbinding : row.binding = last.binding) (hline : row.line = last.line) :
    AnswersImport rows mention last where
  row := ⟨row, hrow, hbinding, hline⟩
  isFound_iff := by
    have hmem : ∀ other, other ∈ rows ∧ other.place = mention.place ↔ other = row := by
      intro other
      calc
        other ∈ rows ∧ other.place = mention.place ↔
            other ∈ rows.filter fun other ↦ other.place = mention.place := by
          rw [List.mem_filter, decide_eq_true_iff]
        _ ↔ other = row := by rw [hrow, List.mem_singleton]
    obtain ⟨hstored, hplace⟩ := (hmem row).mpr rfl
    have hname : row.name = last.name :=
      congrArg Prod.snd (hplace.trans (place_of_lastOfPlace? hlast).symm)
    have hlocal : row.localName = last.localName := by
      rw [Import.localName, hbinding, hname, ImportMention.localName]
    constructor
    · rintro ⟨other, hother, hsame, hfound⟩
      rw [← hlocal, ← (hmem other).mp ⟨hother, hsame⟩, hfound]
    · intro hfound
      exact ⟨row, hstored, hplace, hlocal.trans hfound⟩

end Last

/-- Of the rows of a file, only one has the source and the name that a row of the file has. -/
theorem Store.WellFormed.filter_importsInFile {store : Store} (hstore : store.WellFormed)
    {entry : Import} (hentry : entry ∈ store.imports) :
    (store.importsInFile entry.projectId entry.filePath).filter
      (fun other ↦ other.place = entry.place) = [entry] := by
  have hnodup : (store.importsInFile entry.projectId entry.filePath).Nodup :=
    (perm_sortBy _ _).nodup_iff.mpr (hstore.imports.nodup.filter _)
  have hmem : ∀ other, other ∈ (store.importsInFile entry.projectId entry.filePath).filter
      (fun other ↦ other.place = entry.place) ↔ other ∈ [entry] := by
    intro other
    rw [List.mem_filter, mem_importsInFile_iff, List.mem_singleton, decide_eq_true_iff]
    constructor
    · rintro ⟨⟨hother, hproject, hpath⟩, hplace⟩
      obtain ⟨hsource, hname⟩ := Prod.mk.inj hplace
      have hkey : other.key = entry.key := by
        rw [Import.key, hproject, hpath, hsource, hname, Import.key]
      exact hstore.imports.eq_of_key_eq hother hentry hkey
    · rintro rfl
      exact ⟨⟨hentry, rfl, rfl⟩, rfl⟩
  exact List.perm_singleton.mp
    ((List.perm_ext_iff_of_nodup (hnodup.filter _) (List.nodup_singleton entry)).mpr hmem)

namespace Ingest

variable {file : Store.FileScope} {read : Extraction} {before later : Store} {stats : FileStats}
  {idOf : Nat → Option Int}

/-- A row of the file is last mentioned where its source and its name are. -/
theorem lastMention_eq {entry : Import} (hfile : entry.file = file)
    (mentions : List ImportMention) :
    lastMention file mentions entry = lastOfPlace? mentions entry.place := by
  refine congrArg List.getLast? (List.filter_congr fun mention _ ↦ Bool.eq_iff_iff.mpr ?_)
  rw [Store.FileScope.holdsImport_eq_true_iff, decide_eq_true_iff, ← hfile]
  simp [Import.key, Import.file, Import.place, ImportMention.place, eq_comm]

/-- Whatever a faithfully stored file mentions has a row. -/
theorem IsFaithful.exists_import (hfaithful : IsFaithful file read before later stats idOf)
    {mention : ImportMention} (hmention : mention ∈ read.imports) :
    ∃ entry ∈ later.imports, entry.file = file ∧ entry.place = mention.place := by
  obtain ⟨added, himports, hplaces, hnew⟩ := hfaithful.imports
  rw [himports]
  cases hstored : hasImport file before mention.place with
  | true =>
    obtain ⟨entry, hentry, hholds⟩ := List.any_eq_true.mp hstored
    obtain ⟨binding, line, hrow⟩ := @refreshed_eq file read.imports entry
    refine ⟨refreshed file read.imports entry,
      List.mem_append_left _ (List.mem_map_of_mem hentry), ?_⟩
    rw [hrow]
    have hkey := Store.FileScope.holdsImport_eq_true_iff.mp hholds
    simp only [Import.key, Prod.mk.injEq] at hkey
    obtain ⟨hproject, hpath, hsource, hname⟩ := hkey
    exact ⟨congrArg₂ Store.FileScope.mk hproject hpath, congrArg₂ Prod.mk hsource hname⟩
  | false =>
    have hadded : mention.place ∈ added.map Import.place := by
      rw [hplaces, mem_newKeys_iff]
      exact ⟨List.mem_map_of_mem hmention, hstored⟩
    obtain ⟨entry, hentry, hplace⟩ := List.mem_map.mp hadded
    exact ⟨entry, List.mem_append_right _ hentry, (hnew entry hentry).isOfFile, hplace⟩

/-- A row that a faithfully stored file mentions says what its last mention says. -/
theorem IsFaithful.binding_and_line (hfaithful : IsFaithful file read before later stats idOf)
    {entry : Import} (hentry : entry ∈ later.imports) {last : ImportMention}
    (hlast : lastMention file read.imports entry = some last) :
    entry.binding = last.binding ∧ entry.line = last.line := by
  obtain ⟨added, himports, -, hnew⟩ := hfaithful.imports
  rw [himports, List.mem_append] at hentry
  rcases hentry with hkept | hadded
  · obtain ⟨row, -, rfl⟩ := List.mem_map.mp hkept
    obtain ⟨binding, line, hrow⟩ := @refreshed_eq file read.imports row
    -- the binding and the line do not count among what a mention names
    have hsame : lastMention file read.imports row = some last := by
      rw [← hlast, hrow]
      rfl
    rw [refreshed, hsame]
    exact ⟨rfl, rfl⟩
  · obtain ⟨mention, hmention, hdetails⟩ := (hnew entry hadded).details
    rw [hlast, Option.some_inj] at hmention
    exact hmention ▸ hdetails

/-- Every mention of a faithfully stored file is answered by the last one of its source and name. -/
theorem IsFaithful.answersImport (hfaithful : IsFaithful file read before later stats idOf)
    (hlater : later.WellFormed) {mention : ImportMention} (hmention : mention ∈ read.imports) :
    ∃ last, lastOfPlace? read.imports mention.place = some last ∧
      AnswersImport (later.importsInFile file.projectId file.filePath) mention last := by
  obtain ⟨last, hlast⟩ := exists_lastOfPlace? hmention
  obtain ⟨entry, hentry, hfile, hplace⟩ := hfaithful.exists_import hmention
  have hmentioned : lastMention file read.imports entry = some last := by
    rw [lastMention_eq hfile, hplace, hlast]
  obtain ⟨hbinding, hline⟩ := hfaithful.binding_and_line hentry hmentioned
  subst hfile
  have hrow := hlater.filter_importsInFile hentry
  rw [hplace] at hrow
  exact ⟨last, hlast, answersImport_of_row hlast hrow hbinding hline⟩

end Ingest

/-- In every store that operations reach, an accepted file of a stored project is ingested, and the
last import of every source and name answers for all that the file mentions of them. -/
theorem answersImports_file_storeAfter (operations : List Operation) (projectId : Int)
    (path source : String) {read : Extraction} (hread : SourceFile.extract path source = .ok read)
    (hproject : (storeAfter operations).hasProject projectId = true) : ∃ stats later,
      (Ingest.file projectId path source).run (storeAfter operations) = .ok (stats, later) ∧
        ∀ mention ∈ read.imports, ∃ last, lastOfPlace? read.imports mention.place = some last ∧
          AnswersImport (later.importsInFile projectId path) mention last := by
  have hstore := wellFormed_storeAfter operations
  have hfile : (storeAfter operations).hasProject (Store.FileScope.mk projectId path).projectId =
      true := hproject
  obtain ⟨stats, later, idOf, hrun, hfaithful⟩ :=
    Ingest.exists_isFaithful hstore hfile (SourceFile.nested_extract hread)
  rw [← Ingest.file_run_of_read hread] at hrun
  have hkeeps := Ingest.preserves_file Store.keptByWrites_wellFormed.toKeptByFileWrites projectId
    path source
  have hlater : later.WellFormed := hkeeps _ _ _ hrun hstore
  exact ⟨stats, later, hrun, fun mention hmention ↦ hfaithful.answersImport hlater hmention⟩

/-- A function under two names. -/
def twoAliases : String :=
  "from lib import f as g, f as h\n"

def firstAlias : ImportMention :=
  ⟨"lib", "f", some "g", 1⟩

def secondAlias : ImportMention :=
  ⟨"lib", "f", some "h", 1⟩

/-- Both names are read, and one row is stored. -/
theorem file_run_twoAliases : ∃ read stats later,
    SourceFile.extract "app.py" twoAliases = .ok read ∧
      (Ingest.file 1 "app.py" twoAliases).run (storeAfter emptyProject) = .ok (stats, later) ∧
      read.imports = [firstAlias, secondAlias] ∧
      later.importsInFile 1 "app.py" =
        [⟨1, 1, "app.py", "lib", "f", some "h", 1, none, false⟩] := by
  have hmentions : (SourceFile.extract "app.py" twoAliases).toOption.map (·.imports) =
      some [firstAlias, secondAlias] := by
    decide +kernel
  have hrows : ((Ingest.file 1 "app.py" twoAliases).run (storeAfter emptyProject)).toOption.map
      (·.2.importsInFile 1 "app.py") =
        some [⟨1, 1, "app.py", "lib", "f", some "h", 1, none, false⟩] := by
    decide +kernel
  cases hread : SourceFile.extract "app.py" twoAliases with
  | error failure =>
    rw [hread] at hmentions
    cases hmentions
  | ok read =>
    cases hrun : (Ingest.file 1 "app.py" twoAliases).run (storeAfter emptyProject) with
    | error failure =>
      rw [hrun] at hrows
      cases hrows
    | ok done =>
      rw [hread] at hmentions
      rw [hrun] at hrows
      exact ⟨read, done.1, done.2, rfl, rfl, Option.some.inj hmentions, Option.some.inj hrows⟩

/-- The second of two aliases is found. -/
theorem answersImports_twoAliases : ∃ read stats later,
    SourceFile.extract "app.py" twoAliases = .ok read ∧
      (storeAfter emptyProject).hasProject 1 = true ∧
      (Ingest.file 1 "app.py" twoAliases).run (storeAfter emptyProject) = .ok (stats, later) ∧
      secondAlias ∈ read.imports ∧ secondAlias.IsFound (later.importsInFile 1 "app.py") := by
  have hproject : (storeAfter emptyProject).hasProject 1 = true := by decide
  obtain ⟨read, -, -, hread, -, hmentions, -⟩ := file_run_twoAliases
  obtain ⟨stats, later, hrun, hall⟩ :=
    answersImports_file_storeAfter emptyProject 1 "app.py" twoAliases hread hproject
  have hsecond : secondAlias ∈ read.imports := by
    rw [hmentions]
    decide
  obtain ⟨last, hlast, hanswer⟩ := hall secondAlias hsecond
  have hlastAlias : lastOfPlace? read.imports secondAlias.place = some secondAlias := by
    rw [hmentions]
    decide
  rw [hlast, Option.some_inj] at hlastAlias
  refine ⟨read, stats, later, hread, hproject, hrun, hsecond, hanswer.isFound_iff.mpr ?_⟩
  rw [hlastAlias]

/-- The first of two aliases is read, but it is not found. -/
theorem not_isFound_earlierAlias : ∃ read stats later,
    SourceFile.extract "app.py" twoAliases = .ok read ∧
      (storeAfter emptyProject).hasProject 1 = true ∧
      (Ingest.file 1 "app.py" twoAliases).run (storeAfter emptyProject) = .ok (stats, later) ∧
      firstAlias ∈ read.imports ∧ ¬ firstAlias.IsFound (later.importsInFile 1 "app.py") := by
  obtain ⟨read, stats, later, hread, hrun, hmentions, hrows⟩ := file_run_twoAliases
  refine ⟨read, stats, later, hread, by decide, hrun, ?_, ?_⟩
  · rw [hmentions]
    decide
  · rw [hrows]
    decide

end SymbolGraph
