import SymbolGraph.Proofs.Impact.Distance

/-!
# One level of a traversal

A level begins with the sites met before it and goes through its edges. What holds at the beginning
and is kept whenever a new site is taken in holds at the end (`visit_induct`). So a level adds
entries for edges of its own, one for each new site, and the callers to expand next are those that
no earlier level met (`visited_visit`), each of them once (`nodup_next_visit`). While the result
budget lasts, no edge's site is left out (`site_mem_visit`).
-/

set_option autoImplicit false
set_option relaxedAutoImplicit false

namespace SymbolGraph

/-- The entry for an edge that is met at a depth. -/
def CallerEdge.entryAt (depth : Nat) (edge : CallerEdge) : ImpactEntry where
  caller := edge.caller
  filePath := edge.filePath
  line := edge.line
  depth := depth
  calleeId := edge.calleeId

theorem ImpactEntry.isSiteOf_iff {entry : ImpactEntry} {edge : CallerEdge} :
    entry.isSiteOf edge = true ↔ entry.site = edge.site := by
  simp [isSiteOf, ImpactEntry.site, CallerEdge.site, and_assoc]

namespace Impact

variable {targetId : Int} {depth maxResults : Nat}

theorem any_isSiteOf_iff {entries : List ImpactEntry} {edge : CallerEdge} :
    (entries.any fun entry ↦ entry.isSiteOf edge) = true ↔
      edge.site ∈ entries.map ImpactEntry.site := by
  simp only [List.any_eq_true, ImpactEntry.isSiteOf_iff, List.mem_map]

theorem isReached_iff {entries : List ImpactEntry} {id : Int} :
    isReached targetId entries id = true ↔
      id = targetId ∨ ∃ entry ∈ entries, entry.caller.id = id := by
  simp [isReached]

/-- What was reached stays reached. -/
theorem isReached_of_subset {entries others : List ImpactEntry} {id : Int}
    (hsubset : entries ⊆ others) (hreached : isReached targetId entries id = true) :
    isReached targetId others id = true := by
  rw [isReached_iff] at hreached ⊢
  exact hreached.imp_right fun ⟨entry, hentry, hsame⟩ ↦ ⟨entry, hsubset hentry, hsame⟩

/-- Taking in a site adds the entry of its edge. -/
theorem add_entries (level : Level) (edge : CallerEdge) :
    (level.add targetId depth edge).entries = level.entries ++ [edge.entryAt depth] :=
  rfl

theorem map_site_add (level : Level) (edge : CallerEdge) :
    (level.add targetId depth edge).entries.map ImpactEntry.site =
      level.entries.map ImpactEntry.site ++ [edge.site] := by
  rw [add_entries, List.map_append]
  rfl

/-- The caller of the edge is to be expanded unless it was reached. -/
theorem mem_next_add_iff {level : Level} {edge : CallerEdge} {id : Int} :
    id ∈ (level.add targetId depth edge).next ↔
      id ∈ level.next ∨ id = edge.caller.id ∧ isReached targetId level.entries id = false := by
  by_cases hreached : isReached targetId level.entries edge.caller.id = true
  · rw [Level.add, if_pos hreached]
    refine ⟨.inl, ?_⟩
    rintro (hnext | ⟨rfl, hunreached⟩)
    · exact hnext
    · rw [hreached] at hunreached
      cases hunreached
  · rw [Level.add, if_neg hreached, List.mem_append, List.mem_singleton]
    rw [Bool.not_eq_true] at hreached
    refine or_congr_right ⟨?_, fun hcaller ↦ hcaller.1⟩
    rintro rfl
    exact ⟨rfl, hreached⟩

/-! ### Going through the edges -/

/-- What is kept by taking in new sites and by stopping holds at the end of a level. -/
theorem visit_induct {motive : Level → Prop} {edges : List CallerEdge} {level : Level}
    (hadd : ∀ before edge, edge ∈ edges → edge.site ∉ before.entries.map ImpactEntry.site →
      motive before → motive (before.add targetId depth edge))
    (hstop : ∀ before, motive before → motive { before with stopped := true })
    (hlevel : motive level) : motive (visit maxResults targetId depth edges level) := by
  fun_induction visit maxResults targetId depth edges level with
  | case1 level => exact hlevel
  | case2 edge rest level hspent => exact hstop level hlevel
  | case3 edge rest level hbudget hmet ih =>
    exact ih (fun before other hother ↦ hadd before other (List.mem_cons_of_mem _ hother)) hlevel
  | case4 edge rest level hbudget hnew ih =>
    rw [any_isSiteOf_iff] at hnew
    exact ih (fun before other hother ↦ hadd before other (List.mem_cons_of_mem _ hother))
      (hadd level edge List.mem_cons_self hnew hlevel)

/-- A level keeps the entries that it begins with, and adds to their end. -/
theorem prefix_entries_visit (maxResults : Nat) (targetId : Int) (depth : Nat)
    (edges : List CallerEdge) (level : Level) :
    level.entries <+: (visit maxResults targetId depth edges level).entries := by
  refine visit_induct (motive := fun after ↦ level.entries <+: after.entries)
    (fun before edge _ _ hbefore ↦ ?_) (fun _ hbefore ↦ hbefore) List.prefix_rfl
  rw [add_entries]
  exact hbefore.trans (List.prefix_append _ _)

/-- The sites met before a level stay. -/
theorem site_mem_visit_of_mem {edges : List CallerEdge} {level : Level} {site : CallSite}
    (hsite : site ∈ level.entries.map ImpactEntry.site) :
    site ∈ (visit maxResults targetId depth edges level).entries.map ImpactEntry.site := by
  refine visit_induct (motive := fun after ↦ site ∈ after.entries.map ImpactEntry.site)
    (fun before edge _ _ hbefore ↦ ?_) (fun _ hbefore ↦ hbefore) hsite
  rw [map_site_add]
  exact List.mem_append_left _ hbefore

/-- A level that was not stopped leaves out no edge's site. -/
theorem site_mem_visit {edges : List CallerEdge} {level : Level} {edge : CallerEdge}
    (hedge : edge ∈ edges)
    (hgoes : (visit maxResults targetId depth edges level).stopped = false) :
    edge.site ∈ (visit maxResults targetId depth edges level).entries.map ImpactEntry.site := by
  fun_induction visit maxResults targetId depth edges level with
  | case1 level => cases hedge
  | case2 first rest level hspent => cases hgoes
  | case3 first rest level hbudget hmet ih =>
    rcases List.mem_cons.mp hedge with rfl | hrest
    · exact site_mem_visit_of_mem (any_isSiteOf_iff.mp hmet)
    · exact ih hrest hgoes
  | case4 first rest level hbudget hnew ih =>
    rcases List.mem_cons.mp hedge with rfl | hrest
    · refine site_mem_visit_of_mem ?_
      rw [map_site_add]
      exact List.mem_append_right _ (List.mem_singleton_self _)
    · exact ih hrest hgoes

/-- A level is stopped when the result budget is spent. -/
theorem maxResults_le_of_stopped {edges : List CallerEdge} {level : Level}
    (hbefore : level.stopped = false)
    (hstopped : (visit maxResults targetId depth edges level).stopped = true) :
    maxResults ≤ (visit maxResults targetId depth edges level).entries.length := by
  fun_induction visit maxResults targetId depth edges level with
  | case1 level => exact absurd hstopped (Bool.eq_false_iff.mp hbefore)
  | case2 edge rest level hspent => exact hspent
  | case3 edge rest level hbudget hmet ih => exact ih hbefore hstopped
  | case4 edge rest level hbudget hnew ih => exact ih hbefore hstopped

/-! ### What a level adds -/

/-- The level has gone through some of the edges, after the sites met before it. -/
structure Visited (targetId : Int) (depth : Nat) (met : List ImpactEntry) (edges : List CallerEdge)
    (level : Level) : Prop where
  entries : ∃ fresh, level.entries = met ++ fresh ∧
    ∀ entry ∈ fresh, ∃ edge ∈ edges, entry = edge.entryAt depth
  once : (level.entries.map ImpactEntry.site).Nodup
  next : ∀ id, id ∈ level.next ↔ id ≠ targetId ∧ (∀ entry ∈ met, entry.caller.id ≠ id) ∧
    ∃ entry ∈ level.entries, entry.caller.id = id

theorem visited_start {met : List ImpactEntry} {edges : List CallerEdge}
    (honce : (met.map ImpactEntry.site).Nodup) :
    Visited targetId depth met edges ⟨met, [], false⟩ where
  entries := ⟨[], (List.append_nil met).symm, by simp⟩
  once := honce
  next := by
    intro id
    refine iff_of_false List.not_mem_nil ?_
    rintro ⟨-, hnew, entry, hentry, hid⟩
    exact hnew entry hentry hid

/-- Taking in the new site of an edge. -/
theorem Visited.add {met : List ImpactEntry} {edges : List CallerEdge} {level : Level}
    (hlevel : Visited targetId depth met edges level) {edge : CallerEdge} (hedge : edge ∈ edges)
    (hnew : edge.site ∉ level.entries.map ImpactEntry.site) :
    Visited targetId depth met edges (level.add targetId depth edge) := by
  obtain ⟨fresh, hentries, hfresh⟩ := hlevel.entries
  constructor
  · refine ⟨fresh ++ [edge.entryAt depth], ?_, ?_⟩
    · rw [add_entries, hentries, List.append_assoc]
    · intro entry hentry
      rcases List.mem_append.mp hentry with hold | hlast
      · exact hfresh entry hold
      · exact ⟨edge, hedge, List.mem_singleton.mp hlast⟩
  · rw [map_site_add]
    refine List.nodup_append.mpr ⟨hlevel.once, List.nodup_singleton _, ?_⟩
    rintro site hsite last hlast rfl
    rw [List.mem_singleton.mp hlast] at hsite
    exact hnew hsite
  · intro id
    have hmem : (∃ entry ∈ (level.add targetId depth edge).entries, entry.caller.id = id) ↔
        (∃ entry ∈ level.entries, entry.caller.id = id) ∨ edge.caller.id = id := by
      simp [add_entries, CallerEdge.entryAt, or_and_right, exists_or]
    rw [mem_next_add_iff, hlevel.next, hmem, ← Bool.not_eq_true, isReached_iff, not_or]
    constructor
    · rintro (⟨hne, hunmet, hentry⟩ | ⟨rfl, hne, hunreached⟩)
      · exact ⟨hne, hunmet, .inl hentry⟩
      · refine ⟨hne, fun entry hentry hid ↦ hunreached ⟨entry, ?_, hid⟩, .inr rfl⟩
        rw [hentries]
        exact List.mem_append_left _ hentry
    · rintro ⟨hne, hunmet, hentry⟩
      by_cases hreached : ∃ entry ∈ level.entries, entry.caller.id = id
      · exact .inl ⟨hne, hunmet, hreached⟩
      · exact .inr ⟨(hentry.resolve_left hreached).symm, hne, hreached⟩

/-- The end of a level. -/
theorem visited_visit (maxResults : Nat) (targetId : Int) (depth : Nat) (edges : List CallerEdge)
    {met : List ImpactEntry} (honce : (met.map ImpactEntry.site).Nodup) :
    Visited targetId depth met edges (visit maxResults targetId depth edges ⟨met, [], false⟩) :=
  visit_induct (fun _ _ hedge hnew hbefore ↦ hbefore.add hedge hnew)
    (fun _ hbefore ↦ { hbefore with }) (visited_start honce)

/-! ### What is expanded next -/

/-- A symbol that is to be expanded next was reached by no earlier level and calls at an edge of
this one. -/
theorem mem_next_visit {met : List ImpactEntry} {edges : List CallerEdge}
    (honce : (met.map ImpactEntry.site).Nodup) {id : Int}
    (hid : id ∈ (visit maxResults targetId depth edges ⟨met, [], false⟩).next) :
    isReached targetId met id = false ∧ ∃ edge ∈ edges, edge.caller.id = id := by
  have hlevel := visited_visit maxResults targetId depth edges honce
  obtain ⟨hother, hunmet, entry, hentry, rfl⟩ := (hlevel.next id).mp hid
  refine ⟨?_, ?_⟩
  · rw [← Bool.not_eq_true, isReached_iff, not_or]
    exact ⟨hother, fun ⟨earlier, hearlier, hsame⟩ ↦ hunmet earlier hearlier hsame⟩
  · obtain ⟨fresh, hentries, hfresh⟩ := hlevel.entries
    rw [hentries, List.mem_append] at hentry
    rcases hentry with hold | hnew
    · exact absurd rfl (hunmet entry hold)
    · obtain ⟨edge, hedge, rfl⟩ := hfresh entry hnew
      exact ⟨edge, hedge, rfl⟩

/-- What is to be expanded next is reached by the level itself. -/
theorem isReached_of_mem_next_visit {met : List ImpactEntry} {edges : List CallerEdge}
    (honce : (met.map ImpactEntry.site).Nodup) {id : Int}
    (hid : id ∈ (visit maxResults targetId depth edges ⟨met, [], false⟩).next) :
    isReached targetId (visit maxResults targetId depth edges ⟨met, [], false⟩).entries id =
      true := by
  obtain ⟨-, -, hentry⟩ := ((visited_visit maxResults targetId depth edges honce).next id).mp hid
  exact isReached_iff.mpr (.inr hentry)

/-- No symbol is to be expanded twice at the next level. -/
theorem nodup_next_visit (maxResults : Nat) (targetId : Int) (depth : Nat)
    (edges : List CallerEdge) (met : List ImpactEntry) :
    (visit maxResults targetId depth edges ⟨met, [], false⟩).next.Nodup := by
  refine (visit_induct (motive := fun level ↦ level.next.Nodup ∧
    ∀ id ∈ level.next, isReached targetId level.entries id = true) ?_ (fun _ hbefore ↦ hbefore)
    ⟨List.nodup_nil, fun _ hid ↦ absurd hid List.not_mem_nil⟩).1
  rintro before edge - - ⟨hnodup, hreached⟩
  refine ⟨?_, fun id hid ↦ ?_⟩
  · unfold Level.add
    split
    · exact hnodup
    · rename_i hunreached
      refine hnodup.append (List.nodup_singleton _) (List.disjoint_singleton.mpr fun hmem ↦ ?_)
      exact hunreached (hreached _ hmem)
  · rw [add_entries]
    rcases mem_next_add_iff.mp hid with hold | ⟨rfl, -⟩
    · exact isReached_of_subset (List.subset_append_left _ _) (hreached id hold)
    · exact isReached_iff.mpr (.inr ⟨_, List.mem_append_right _ (List.mem_singleton_self _), rfl⟩)

end Impact

end SymbolGraph
