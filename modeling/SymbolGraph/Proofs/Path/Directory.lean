import SymbolGraph.Proofs.Path.Walk

/-!
# Walks between the directories of a repository

What a relative path means is said by the directories that it leads through: an empty segment and
`.` stay, `..` goes up, and a name goes down (`LeadsTo`, `WalksTo`). Above the root there is no
directory, so a walk comes to an end where it goes up from there. `join?` follows this walk, and
gives nothing when the walk goes up from the root or ends there (`join?_walksTo`).

The place that a walk reaches is written as a path of its own, from which the walk can be taken up
again: a relative path in two parts leads where its second part leads from the place that the first
one has reached (`join?_append`).
-/

set_option autoImplicit false
set_option relaxedAutoImplicit false

namespace SymbolGraph.Path

/-- One segment leads from a directory to another one. Directories are given by the names that lead
to them from the root. -/
inductive LeadsTo : List String → String → List String → Prop
  | stay (place : List String) {segment : String} (hstays : segment = "" ∨ segment = ".") :
      LeadsTo place segment place
  | up (place : List String) (inner : String) : LeadsTo (place ++ [inner]) ".." place
  | down (place : List String) {name : String} (hname : IsName name) :
      LeadsTo place name (place ++ [name])

/-- Segments lead from a directory to another one, one after the other. -/
inductive WalksTo : List String → List String → List String → Prop
  | arrived (place : List String) : WalksTo place [] place
  | onward {place next last : List String} {segment : String} {rest : List String}
      (hstep : LeadsTo place segment next) (hrest : WalksTo next rest last) :
      WalksTo place (segment :: rest) last

/-! ### Steps -/

section Steps

variable {place next : List String} {segment : String}

/-- A step that is taken leads to the next directory, and there is a step to every one. -/
theorem leadsTo_iff :
    LeadsTo place segment next ↔ step place.reverse segment = some next.reverse := by
  constructor
  · intro hleads
    cases hleads with
    | stay _ hstays =>
      rcases hstays with rfl | rfl
      · rfl
      · rfl
    | up _ inner =>
      rw [List.reverse_concat]
      rfl
    | down _ hname => rw [step_of_isName hname, List.reverse_concat]
  · intro hstep
    unfold step at hstep
    split at hstep
    · rw [← List.reverse_inj.mp (Option.some.inj hstep)]
      exact .stay place (Or.inl rfl)
    · rw [← List.reverse_inj.mp (Option.some.inj hstep)]
      exact .stay place (Or.inr rfl)
    · split at hstep
      · cases hstep
      · rename_i inner outer hplace
        have hback : place = next ++ [inner] := by
          rw [← List.reverse_inj, hplace, List.reverse_concat, Option.some.inj hstep]
        rw [hback]
        exact .up next inner
    · rename_i hempty hhere hup
      have hdown : next = place ++ [segment] := by
        rw [← List.reverse_inj, ← Option.some.inj hstep, List.reverse_concat]
      rw [hdown]
      exact .down place ⟨hempty, hhere, hup⟩

/-- Only from the root is there a step that cannot be taken, the one that goes up. -/
theorem step_eq_none_iff : step place segment = none ↔ place = [] ∧ segment = ".." := by
  unfold step
  split
  · simp
  · simp
  · cases place with
    | nil => simp
    | cons => simp
  · rename_i hup
    exact iff_of_false (Option.some_ne_none _) fun hroot ↦ hup hroot.2

/-- Going on from entries, a step leads to entries. -/
theorem LeadsTo.forall_isEntry (hleads : LeadsTo place segment next)
    (hplace : ∀ name ∈ place, IsEntry name) (hsegment : '/' ∉ segment.toList) :
    ∀ name ∈ next, IsEntry name := by
  cases hleads with
  | stay => exact hplace
  | up _ inner => exact fun name hname ↦ hplace name (List.mem_append_left _ hname)
  | down _ hname =>
    refine List.forall_mem_append.mpr ⟨hplace, List.forall_mem_singleton.mpr ?_⟩
    exact ⟨⟨hname.ne_empty, hname.ne_here, hsegment⟩, hname.ne_up⟩

end Steps

/-! ### Walks -/

section Walks

variable {place last segments : List String}

/-- A walk that is taken to its end leads to the last directory. -/
theorem walksTo_iff :
    WalksTo place segments last ↔ walk place.reverse segments = some last.reverse := by
  induction segments generalizing place with
  | nil =>
    rw [walk, Option.some_inj, List.reverse_inj]
    constructor
    · rintro ⟨⟩
      rfl
    · rintro rfl
      exact .arrived place
  | cons segment rest ih =>
    rw [walk, Option.bind_eq_some_iff]
    constructor
    · rintro ⟨⟩
      rename_i next hstep hrest
      exact ⟨next.reverse, leadsTo_iff.mp hstep, ih.mp hrest⟩
    · rintro ⟨next, hstep, hrest⟩
      rw [← List.reverse_reverse next] at hstep hrest
      exact .onward (leadsTo_iff.mpr hstep) (ih.mpr hrest)

/-- A walk is broken off where it goes up from the root. -/
theorem walk_eq_none_iff : walk place segments = none ↔
    ∃ before after, segments = before ++ ".." :: after ∧ walk place before = some [] := by
  induction segments generalizing place with
  | nil => simp [walk]
  | cons segment rest ih =>
    cases hstep : step place segment with
    | none =>
      obtain ⟨rfl, rfl⟩ := step_eq_none_iff.mp hstep
      exact iff_of_true rfl ⟨[], rest, rfl, rfl⟩
    | some next =>
      rw [walk, hstep, Option.bind_some, ih]
      constructor
      · rintro ⟨before, after, rfl, hbefore⟩
        refine ⟨segment :: before, after, rfl, ?_⟩
        rw [walk, hstep, Option.bind_some, hbefore]
      · rintro ⟨before, after, hsegments, hbefore⟩
        cases before with
        | nil =>
          have hnone := step_eq_none_iff.mpr
            ⟨Option.some.inj hbefore, (List.cons.inj hsegments).1⟩
          cases hstep.symm.trans hnone
        | cons first before =>
          obtain ⟨rfl, hrest⟩ := List.cons.inj hsegments
          rw [walk, hstep, Option.bind_some] at hbefore
          exact ⟨before, after, hrest, hbefore⟩

theorem WalksTo.forall_isEntry (hwalks : WalksTo place segments last)
    (hplace : ∀ name ∈ place, IsEntry name)
    (hsegments : ∀ segment ∈ segments, '/' ∉ segment.toList) : ∀ name ∈ last, IsEntry name := by
  induction hwalks with
  | arrived => exact hplace
  | onward hstep hrest ih =>
    obtain ⟨hsegment, hothers⟩ := List.forall_mem_cons.mp hsegments
    exact ih (hstep.forall_isEntry hplace hsegment) hothers

end Walks

/-! ### Joined paths -/

/-- The walk along a relative path goes up from the root at some `..`. -/
def LeavesRoot (place segments : List String) : Prop :=
  ∃ before after, segments = before ++ ".." :: after ∧ WalksTo place before []

theorem walk_segments_eq_none_iff {base relative : String} :
    walk (segments base).reverse (Text.split '/' relative) = none ↔
      LeavesRoot (segments base) (Text.split '/' relative) := by
  simp only [walk_eq_none_iff, LeavesRoot, walksTo_iff, List.reverse_nil]

/-- A joined path is written from the root to the place that the walk reaches. -/
theorem join?_eq_some_iff {base relative path : String} :
    join? base relative = some path ↔ ∃ place, place ≠ [] ∧
      WalksTo (segments base) (Text.split '/' relative) place ∧ path = Text.join "/" place := by
  rw [join?_eq, ← walk_split, Option.bind_eq_some_iff]
  constructor
  · rintro ⟨place, hwalk, hpath⟩
    have hne : place.reverse ≠ [] := by
      rintro hroot
      rw [hroot] at hpath
      cases hpath
    rw [Text.joined?_of_ne_nil hne] at hpath
    refine ⟨place.reverse, hne, walksTo_iff.mpr ?_, (Option.some.inj hpath).symm⟩
    rw [hwalk, List.reverse_reverse]
  · rintro ⟨place, hne, hwalks, rfl⟩
    refine ⟨place.reverse, walksTo_iff.mp hwalks, ?_⟩
    rw [List.reverse_reverse, Text.joined?_of_ne_nil hne]

theorem join?_eq_none_iff {base relative : String} :
    join? base relative = none ↔ LeavesRoot (segments base) (Text.split '/' relative) ∨
      WalksTo (segments base) (Text.split '/' relative) [] := by
  rw [← walk_segments_eq_none_iff, walksTo_iff, join?_eq, ← walk_split]
  cases walk (segments base).reverse (Text.split '/' relative) with
  | none => simp
  | some place =>
    cases place with
    | nil => simp [Text.joined?]
    | cons inner outer => simp [Text.joined?_of_ne_nil]

/-- Where a walk has led, it can be taken up again. -/
theorem join?_append {base first second path : String} (hfirst : join? base first = some path) :
    join? base (first ++ "/" ++ second) = join? path second := by
  rw [join?_eq] at hfirst
  obtain ⟨place, hwalk, hpath⟩ := Option.bind_eq_some_iff.mp hfirst
  have hplace : ∀ name ∈ place.reverse, IsSegment name := by
    intro name hname
    refine forall_isSegment_walk (fun inner hinner ↦ ?_) (fun piece hpiece ↦ ?_) hwalk name
      (List.mem_reverse.mp hname)
    · exact isSegment_of_mem_segments (List.mem_reverse.mp hinner)
    · exact (isSegment_of_mem_segments hpiece).not_mem
  have hne : place.reverse ≠ [] := by
    rintro hroot
    rw [hroot] at hpath
    cases hpath
  rw [Text.joined?_of_ne_nil hne] at hpath
  have hsegments : segments path = place.reverse := by
    rw [← Option.some.inj hpath, segments_join hplace]
  rw [join?_eq, segments_append, walk_append, hwalk, Option.bind_some, join?_eq, hsegments,
    List.reverse_reverse]

/-- A base without `..` is the directory to which its segments lead from the root. A relative path
leads nowhere from there exactly when its walk goes up from the root or ends there; otherwise it
leads to the path of the place that the walk reaches, which is written with entries only. From any
base, a path in two parts leads where its second part leads from the place that the first one
reaches. -/
theorem join?_walksTo {base : String} (hbase : ".." ∉ Text.split '/' base) (relative : String) :
    WalksTo [] (Text.split '/' base) (segments base) ∧
    (join? base relative = none ↔ LeavesRoot (segments base) (Text.split '/' relative) ∨
      WalksTo (segments base) (Text.split '/' relative) []) ∧
    (∀ path, join? base relative = some path ↔ ∃ place, place ≠ [] ∧
      WalksTo (segments base) (Text.split '/' relative) place ∧ path = Text.join "/" place) ∧
    (∀ path, join? base relative = some path → IsCanonical path) ∧
    ∀ start first second path, join? start first = some path →
      join? start (first ++ "/" ++ second) = join? path second := by
  have hentries : ∀ name ∈ segments base, IsEntry name := by
    intro name hname
    refine ⟨isSegment_of_mem_segments hname, ?_⟩
    rintro rfl
    exact hbase (List.mem_filter.mp hname).1
  refine ⟨?_, join?_eq_none_iff, fun path ↦ join?_eq_some_iff, fun path hpath ↦ ?_,
    fun start first second path hfirst ↦ join?_append hfirst⟩
  · rw [walksTo_iff, List.reverse_nil, walk_split, walk_of_isEntry hentries, List.append_nil]
  · obtain ⟨place, hne, hwalks, rfl⟩ := join?_eq_some_iff.mp hpath
    refine isCanonical_join (hwalks.forall_isEntry hentries fun segment hsegment ↦ ?_) hne
    exact Text.not_mem_of_mem_split hsegment

/-- From `web/src` a walk over `..` leads to a file beside it, in one part or in two, and one that
goes up three times leads nowhere. -/
theorem join?_walksTo_siblingDirectory :
    ".." ∉ Text.split '/' "web/src" ∧
      (∃ place, place ≠ [] ∧
        WalksTo (segments "web/src") (Text.split '/' ".././lib//x") place ∧
        "web/lib/x" = Text.join "/" place) ∧
      IsCanonical "web/lib/x" ∧
      (LeavesRoot (segments "web/src") (Text.split '/' "../../../x") ∨
        WalksTo (segments "web/src") (Text.split '/' "../../../x") []) ∧
      join? "web/src" ("../lib" ++ "/" ++ "../x") = join? "web/lib" "../x" := by
  have hbase : ".." ∉ Text.split '/' "web/src" := by decide
  have hjoin : join? "web/src" ".././lib//x" = some "web/lib/x" := by decide
  obtain ⟨-, -, hreached, hcanonical, hagain⟩ := join?_walksTo hbase ".././lib//x"
  obtain ⟨-, hnone, -⟩ := join?_walksTo hbase "../../../x"
  exact ⟨hbase, (hreached _).mp hjoin, hcanonical _ hjoin, hnone.mp (by decide),
    hagain _ _ _ _ (by decide)⟩

end SymbolGraph.Path
