import SymbolGraph.Proofs.Impact.Visit

/-!
# The traversal level by level

Before each level the sites met are those of the calls to symbols that are nearer than the level
(`Met`), and the frontier has the symbols at the distance of the level. A level that is not stopped
keeps this (`Met.visit`, `Met.mem_next_iff`), and so a traversal that no budget stops meets the
sites of the calls to all symbols within its depth (`met_follow`). A traversal is stopped by a
budget only (`budget_of_stopped`).

Both rest on what a site is that a level meets anew: none of its callees is nearer than the
frontier, as an earlier level would have met it.
-/

set_option autoImplicit false
set_option relaxedAutoImplicit false

namespace SymbolGraph

open Impact

/-- The entry shows its caller as it is stored, and the callee is called at its site, with none
nearer to the target called there. The depth is one more than the distance of the callee. -/
structure ImpactEntry.IsNearest (store : Store) (projectId targetId : Int) (entry : ImpactEntry) :
    Prop where
  caller : ∃ caller, store.symbol? entry.caller.id = some caller ∧ entry.caller = caller.summary
  callee : ∃ distance, entry.depth = distance + 1 ∧
    store.CallsAt projectId entry.site entry.calleeId ∧
    store.IsDistance projectId targetId distance entry.calleeId ∧
    ∀ calleeId other, store.CallsAt projectId entry.site calleeId →
      store.IsDistance projectId targetId other calleeId → distance ≤ other

namespace Impact

/-- The entries are for the sites of the project's calls to symbols nearer than the reach, one for
each site. -/
structure Met (store : Store) (projectId targetId : Int) (reach : Nat)
    (entries : List ImpactEntry) : Prop where
  sites : ∀ site, site ∈ entries.map ImpactEntry.site ↔ ∃ calleeId distance,
    store.CallsAt projectId site calleeId ∧
      store.IsDistance projectId targetId distance calleeId ∧ distance < reach
  once : (entries.map ImpactEntry.site).Nodup
  nearest : ∀ entry ∈ entries, entry.IsNearest store projectId targetId

section

variable {store : Store} {projectId targetId : Int} {reach : Nat} {frontier : List Int}
  {met : List ImpactEntry} {callers : List Int → List CallerEdge} {limits : ImpactLimits}

theorem met_nil : Met store projectId targetId 0 [] where
  sites := by simp
  once := List.nodup_nil
  nearest := by simp

/-- Looking further meets no more sites when no symbol is at the distance reached. -/
theorem Met.extend (hmet : Met store projectId targetId reach met)
    (hnone : ∀ id, ¬ store.IsDistance projectId targetId reach id) {further : Nat}
    (hle : reach ≤ further) : Met store projectId targetId further met where
  sites := by
    intro site
    rw [hmet.sites]
    constructor
    · rintro ⟨calleeId, distance, hcall, hcallee, hlt⟩
      exact ⟨calleeId, distance, hcall, hcallee, Nat.lt_of_lt_of_le hlt hle⟩
    · rintro ⟨calleeId, distance, hcall, hcallee, -⟩
      refine ⟨calleeId, distance, hcall, hcallee, Nat.lt_of_not_le fun hfar ↦ ?_⟩
      obtain ⟨other, hother⟩ := hcallee.no_gap hfar
      exact hnone other hother
  once := hmet.once
  nearest := hmet.nearest

/-! ### One level -/

/-- At a site that was not met, no callee is nearer than the reach. -/
theorem Met.le_of_not_mem (hmet : Met store projectId targetId reach met) {site : CallSite}
    (hnew : site ∉ met.map ImpactEntry.site) {calleeId : Int} {distance : Nat}
    (hcall : store.CallsAt projectId site calleeId)
    (hcallee : store.IsDistance projectId targetId distance calleeId) : reach ≤ distance :=
  Nat.le_of_not_lt fun hlt ↦ hnew ((hmet.sites site).mpr ⟨calleeId, distance, hcall, hcallee, hlt⟩)

theorem exists_site_iff {entries : List ImpactEntry} {id : Int} :
    (∃ entry ∈ entries, entry.caller.id = id) ↔
      ∃ site ∈ entries.map ImpactEntry.site, site.callerId = id := by
  constructor
  · rintro ⟨entry, hentry, hid⟩
    exact ⟨entry.site, List.mem_map_of_mem hentry, hid⟩
  · rintro ⟨site, hsite, hid⟩
    obtain ⟨entry, hentry, rfl⟩ := List.mem_map.mp hsite
    exact ⟨entry, hentry, hid⟩

variable (hstore : store.WellFormed)
  (hcallers : (callers frontier).Perm (store.callersOf projectId frontier))
include hstore hcallers

/-- A level adds entries for calls to symbols of its frontier, with their callers as stored. -/
theorem exists_fresh (limits : ImpactLimits) (targetId : Int) (depth : Nat)
    (honce : (met.map ImpactEntry.site).Nodup) :
    ∃ fresh, (Impact.visit limits.maxResults targetId depth (callers frontier)
        ⟨met, [], false⟩).entries = met ++ fresh ∧
      ∀ entry ∈ fresh, entry.depth = depth ∧ entry.calleeId ∈ frontier ∧
        store.CallsAt projectId entry.site entry.calleeId ∧
        ∃ caller, store.symbol? entry.caller.id = some caller ∧ entry.caller = caller.summary := by
  obtain ⟨fresh, hentries, hfresh⟩ :=
    (visited_visit limits.maxResults targetId depth (callers frontier) honce).entries
  refine ⟨fresh, hentries, fun entry hentry ↦ ?_⟩
  obtain ⟨edge, hedge, rfl⟩ := hfresh entry hentry
  have hmem := hcallers.mem_iff.mp hedge
  obtain ⟨hid, hcall⟩ := hstore.exists_callersOf_iff.mp ⟨edge, hmem, rfl, rfl⟩
  exact ⟨rfl, hid, hcall, Store.exists_symbol?_of_mem_callersOf hmem⟩

variable (hmet : Met store projectId targetId reach met)
  (hfrontier : ∀ id, id ∈ frontier ↔ store.IsDistance projectId targetId reach id)
include hmet hfrontier

/-- A level that is not stopped meets the sites of the calls to the symbols of its frontier. -/
theorem Met.visit
    (hgoes : (Impact.visit limits.maxResults targetId (reach + 1) (callers frontier)
      ⟨met, [], false⟩).stopped = false) :
    Met store projectId targetId (reach + 1)
      (Impact.visit limits.maxResults targetId (reach + 1) (callers frontier)
        ⟨met, [], false⟩).entries := by
  have honce :=
    (visited_visit limits.maxResults targetId (reach + 1) (callers frontier) hmet.once).once
  obtain ⟨fresh, hentries, hfresh⟩ :=
    exists_fresh hstore hcallers limits targetId (reach + 1) hmet.once
  constructor
  · intro site
    constructor
    · intro hsite
      rw [hentries, List.map_append, List.mem_append] at hsite
      rcases hsite with hold | hnew
      · obtain ⟨calleeId, distance, hcall, hcallee, hlt⟩ := (hmet.sites site).mp hold
        exact ⟨calleeId, distance, hcall, hcallee, Nat.lt_succ_of_lt hlt⟩
      · obtain ⟨entry, hentry, rfl⟩ := List.mem_map.mp hnew
        obtain ⟨-, hid, hcall, -⟩ := hfresh entry hentry
        exact ⟨entry.calleeId, reach, hcall, (hfrontier _).mp hid, Nat.lt_succ_self reach⟩
    · rintro ⟨calleeId, distance, hcall, hcallee, hlt⟩
      rcases Nat.lt_succ_iff_lt_or_eq.mp hlt with hnear | rfl
      · exact site_mem_visit_of_mem
          ((hmet.sites site).mpr ⟨calleeId, distance, hcall, hcallee, hnear⟩)
      · obtain ⟨edge, hmem, rfl, -⟩ :=
          hstore.exists_callersOf_iff.mpr ⟨(hfrontier calleeId).mpr hcallee, hcall⟩
        exact site_mem_visit (hcallers.mem_iff.mpr hmem) hgoes
  · exact honce
  · intro entry hentry
    rw [hentries, List.map_append, List.nodup_append] at honce
    rw [hentries, List.mem_append] at hentry
    rcases hentry with hold | hnew
    · exact hmet.nearest entry hold
    · -- an earlier level would have met the site if a nearer symbol were called there
      obtain ⟨hdepth, hid, hcall, hcaller⟩ := hfresh entry hnew
      have hunmet : entry.site ∉ met.map ImpactEntry.site := fun hsite ↦
        honce.2.2 _ hsite _ (List.mem_map_of_mem hnew) rfl
      exact ⟨hcaller, reach, hdepth, hcall, (hfrontier _).mp hid,
        fun _ _ hother ↦ hmet.le_of_not_mem hunmet hother⟩

/-- The symbols to expand next are those one step beyond the frontier. -/
theorem Met.mem_next_iff
    (hgoes : (Impact.visit limits.maxResults targetId (reach + 1) (callers frontier)
      ⟨met, [], false⟩).stopped = false) (id : Int) :
    id ∈ (Impact.visit limits.maxResults targetId (reach + 1) (callers frontier)
        ⟨met, [], false⟩).next ↔ store.IsDistance projectId targetId (reach + 1) id := by
  have hafter := hmet.visit hstore hcallers hfrontier hgoes
  rw [(visited_visit _ _ _ _ hmet.once).next, Store.isDistance_succ_iff, exists_site_iff]
  refine and_congr_right fun _ ↦ ?_
  constructor
  · rintro ⟨hunmet, site, hsite, hid⟩
    have hfar : ∀ site calleeId nearer, site.callerId = id → store.CallsAt projectId site calleeId →
        store.IsDistance projectId targetId nearer calleeId → reach ≤ nearer := by
      intro site calleeId nearer hid hcall hcallee
      refine hmet.le_of_not_mem (fun hsite ↦ ?_) hcall hcallee
      obtain ⟨entry, hentry, rfl⟩ := List.mem_map.mp hsite
      exact hunmet entry hentry hid
    obtain ⟨calleeId, distance, hcall, hcallee, hlt⟩ := (hafter.sites site).mp hsite
    obtain rfl := Nat.le_antisymm (Nat.le_of_lt_succ hlt) (hfar _ _ _ hid hcall hcallee)
    exact ⟨⟨site, calleeId, hid, hcall, hcallee⟩, hfar⟩
  · rintro ⟨⟨site, calleeId, hid, hcall, hcallee⟩, hfar⟩
    refine ⟨fun entry hentry hcaller ↦ ?_, site, ?_, hid⟩
    · obtain ⟨nearId, distance, hnearCall, hnear, hlt⟩ :=
        (hmet.sites entry.site).mp (List.mem_map_of_mem hentry)
      exact Nat.not_lt.mpr (hfar _ _ _ hcaller hnearCall hnear) hlt
    · exact (hafter.sites site).mpr ⟨calleeId, reach, hcall, hcallee, Nat.lt_succ_self reach⟩

end

/-! ### All levels -/

variable {store : Store} {projectId targetId : Int} {callers : List Int → List CallerEdge}
  {limits : ImpactLimits}

theorem follow_nil (remaining depth : Nat) (met : List ImpactEntry) :
    follow callers limits targetId remaining depth [] met = (met, false) := by
  cases remaining with
  | zero => rfl
  | succ remaining => rfl

/-- A level begins, and unless it is stopped the next one follows. -/
theorem traverse_succ {remaining depth : Nat} {frontier : List Int} {met : List ImpactEntry}
    (hnonempty : ¬ frontier.isEmpty = true) (htime : ¬ limits.isTimeUp depth = true) :
    traverse callers limits targetId (remaining + 1) depth frontier met =
      let level := Impact.visit limits.maxResults targetId depth (callers frontier) ⟨met, [], false⟩
      if level.stopped then ⟨level.entries, true, [frontier]⟩
      else (traverse callers limits targetId remaining (depth + 1) level.next level.entries).after
        frontier := by
  rw [traverse, if_neg hnonempty, if_neg htime]

theorem follow_succ {remaining depth : Nat} {frontier : List Int} {met : List ImpactEntry}
    (hnonempty : ¬ frontier.isEmpty = true) (htime : ¬ limits.isTimeUp depth = true) :
    follow callers limits targetId (remaining + 1) depth frontier met =
      let level := Impact.visit limits.maxResults targetId depth (callers frontier) ⟨met, [], false⟩
      if level.stopped then (level.entries, true)
      else follow callers limits targetId remaining (depth + 1) level.next level.entries := by
  unfold follow
  rw [traverse_succ hnonempty htime]
  dsimp only
  split
  · rfl
  · rfl

/-- No level begins when the time is up. -/
theorem follow_of_isTimeUp {remaining depth : Nat} {frontier : List Int} {met : List ImpactEntry}
    (hnonempty : ¬ frontier.isEmpty = true) (htime : limits.isTimeUp depth = true) :
    follow callers limits targetId (remaining + 1) depth frontier met = (met, true) := by
  rw [follow, traverse, if_neg hnonempty, if_pos htime]

/-- When no budget stops the traversal, none stops its first level. -/
theorem follow_of_goes {remaining depth : Nat} {frontier : List Int} {met : List ImpactEntry}
    (hnonempty : ¬ frontier.isEmpty = true)
    (hgoes : (follow callers limits targetId (remaining + 1) depth frontier met).2 = false) :
    let level := Impact.visit limits.maxResults targetId depth (callers frontier) ⟨met, [], false⟩
    level.stopped = false ∧ follow callers limits targetId (remaining + 1) depth frontier met =
      follow callers limits targetId remaining (depth + 1) level.next level.entries := by
  intro level
  by_cases htime : limits.isTimeUp depth = true
  · rw [follow_of_isTimeUp hnonempty htime] at hgoes
    cases hgoes
  · rw [follow_succ hnonempty htime] at hgoes ⊢
    by_cases hstopped : level.stopped = true
    · rw [if_pos hstopped] at hgoes
      cases hgoes
    · exact ⟨Bool.eq_false_iff.mpr hstopped, if_neg hstopped⟩

/-- A traversal keeps the entries that it begins with, and adds to their end. -/
theorem prefix_follow (callers : List Int → List CallerEdge) (limits : ImpactLimits)
    (targetId : Int) (remaining depth : Nat) (frontier : List Int) (met : List ImpactEntry) :
    met <+: (follow callers limits targetId remaining depth frontier met).1 := by
  unfold follow
  fun_induction traverse callers limits targetId remaining depth frontier met with
  | case1 => exact List.prefix_rfl
  | case2 => exact List.prefix_rfl
  | case3 => exact List.prefix_rfl
  | case4 => exact prefix_entries_visit _ _ _ _ ⟨_, [], false⟩
  | case5 =>
    rename_i ih
    exact (prefix_entries_visit _ _ _ _ ⟨_, [], false⟩).trans ih

/-- A traversal that no budget stops meets the sites of the calls to all symbols that are nearer
than the depth at which it ends. -/
theorem met_follow (hstore : store.WellFormed)
    (hcallers : ∀ frontier, (callers frontier).Perm (store.callersOf projectId frontier))
    {remaining reach : Nat} {frontier : List Int} {met : List ImpactEntry}
    (hmet : Met store projectId targetId reach met)
    (hfrontier : ∀ id, id ∈ frontier ↔ store.IsDistance projectId targetId reach id)
    (hgoes : (follow callers limits targetId remaining (reach + 1) frontier met).2 = false) :
    Met store projectId targetId (reach + remaining)
      (follow callers limits targetId remaining (reach + 1) frontier met).1 := by
  generalize hdepth : reach + 1 = depth at hgoes ⊢
  unfold follow at hgoes ⊢
  fun_induction traverse callers limits targetId remaining depth frontier met
    generalizing reach with
  | case1 => exact hmet
  | case2 remaining depth frontier met hempty =>
    refine hmet.extend (fun id hid ↦ ?_) (Nat.le_add_right reach (remaining + 1))
    rw [← hfrontier, List.isEmpty_iff.mp hempty] at hid
    cases hid
  | case3 => cases hgoes
  | case4 => cases hgoes
  | case5 =>
    rename_i remaining depth frontier met hnonempty htime level hstopped ih
    subst hdepth
    rw [Bool.not_eq_true] at hstopped
    rw [Nat.succ_eq_add_one, Nat.add_comm remaining 1, ← Nat.add_assoc]
    exact ih (hmet.visit hstore (hcallers frontier) hfrontier hstopped)
      (hmet.mem_next_iff hstore (hcallers frontier) hfrontier hstopped) rfl hgoes

/-! ### Budgets -/

/-- The entries are for call sites of the store, one for each. -/
def OnCallSites (store : Store) (entries : List ImpactEntry) : Prop :=
  (entries.map ImpactEntry.site).Nodup ∧
    entries.map ImpactEntry.site ⊆ store.calls.map Call.site

theorem onCallSites_nil (store : Store) : OnCallSites store [] :=
  ⟨List.nodup_nil, List.nil_subset _⟩

theorem OnCallSites.length_le {entries : List ImpactEntry} (hentries : OnCallSites store entries) :
    entries.length ≤ store.calls.length := by
  have hlength := (List.subperm_of_subset hentries.1 hentries.2).length_le
  rwa [List.length_map, List.length_map] at hlength

/-- A level meets call sites of the store, whether a budget stops it or not. -/
theorem OnCallSites.visit (hstore : store.WellFormed) {frontier : List Int}
    (hcallers : (callers frontier).Perm (store.callersOf projectId frontier)) {depth : Nat}
    {met : List ImpactEntry} (hmet : OnCallSites store met) :
    OnCallSites store (Impact.visit limits.maxResults targetId depth (callers frontier)
      ⟨met, [], false⟩).entries := by
  refine ⟨(visited_visit _ _ _ _ hmet.1).once, fun site hsite ↦ ?_⟩
  obtain ⟨fresh, hentries, hfresh⟩ := exists_fresh hstore hcallers limits targetId depth hmet.1
  rw [hentries, List.map_append, List.mem_append] at hsite
  rcases hsite with hold | hnew
  · exact hmet.2 hold
  · obtain ⟨entry, hentry, rfl⟩ := List.mem_map.mp hnew
    obtain ⟨-, -, ⟨call, hcall, -, hsite, -⟩, -⟩ := hfresh entry hentry
    exact List.mem_map.mpr ⟨call, hcall, hsite⟩

/-- A traversal meets call sites of the store. -/
theorem onCallSites_follow (hstore : store.WellFormed)
    (hcallers : ∀ frontier, (callers frontier).Perm (store.callersOf projectId frontier))
    {remaining depth : Nat} {frontier : List Int} {met : List ImpactEntry}
    (hmet : OnCallSites store met) :
    OnCallSites store (follow callers limits targetId remaining depth frontier met).1 := by
  unfold follow
  fun_induction traverse callers limits targetId remaining depth frontier met with
  | case1 => exact hmet
  | case2 => exact hmet
  | case3 => exact hmet
  | case4 => exact hmet.visit hstore (hcallers _)
  | case5 =>
    rename_i ih
    exact ih (hmet.visit hstore (hcallers _))

/-- A traversal is stopped only when the time is up or the result budget is spent. -/
theorem budget_of_stopped {remaining depth : Nat} {frontier : List Int} {met : List ImpactEntry}
    (hstopped : (follow callers limits targetId remaining depth frontier met).2 = true) :
    (∃ level, limits.isTimeUp level = true) ∨
      limits.maxResults ≤
        (follow callers limits targetId remaining depth frontier met).1.length := by
  unfold follow at hstopped ⊢
  fun_induction traverse callers limits targetId remaining depth frontier met with
  | case1 => cases hstopped
  | case2 => cases hstopped
  | case3 remaining depth frontier met hnonempty htime => exact .inl ⟨depth, htime⟩
  | case4 =>
    rename_i hspent
    exact .inr (maxResults_le_of_stopped rfl hspent)
  | case5 =>
    rename_i ih
    exact ih hstopped

end Impact

end SymbolGraph
