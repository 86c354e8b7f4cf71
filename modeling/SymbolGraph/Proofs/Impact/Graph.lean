import Mathlib
import SymbolGraph.Impact.Graph
import SymbolGraph.Proofs.Impact.Report

/-!
# Impact graphs are closed and layered

Every call site that a traversal meets calls the target or a symbol that was met one level earlier
(`Impact.Layered`). This holds in any store, and whether a budget cuts the traversal short or not,
because a level expands only callers that an entry of the level before has brought in
(`layered_follow`). So in the graph of a report no end of an edge is missing, ranks fall by at most
one along an edge, and from each node a path of as many edges as its rank leads to the target
(`ImpactGraph.IsLayered`, `isLayered_ofReport`).

The entries of a report are drawn in the order of their depths, so a node gets the least depth of
its entries, although it keeps the first one (`ImpactGraph.Draws`).
-/

set_option autoImplicit false
set_option relaxedAutoImplicit false

namespace SymbolGraph

/-! ### Ranks -/

/-- The rank of a symbol among entries: zero for the target, and for any other caller the smallest
depth at which it calls. -/
structure HasRank (targetId : Int) (entries : List ImpactEntry) (id : Int) (rank : Nat) : Prop where
  target : id = targetId → rank = 0
  caller : id ≠ targetId → (∃ entry ∈ entries, entry.caller.id = id ∧ entry.depth = rank) ∧
    ∀ entry ∈ entries, entry.caller.id = id → rank ≤ entry.depth

namespace HasRank

variable {targetId id : Int} {entries : List ImpactEntry} {rank : Nat}

theorem zero (targetId : Int) (entries : List ImpactEntry) :
    HasRank targetId entries targetId 0 where
  target := fun _ ↦ rfl
  caller := fun hother ↦ absurd rfl hother

theorem unique {other : Nat} (hrank : HasRank targetId entries id rank)
    (hother : HasRank targetId entries id other) : rank = other := by
  by_cases htarget : id = targetId
  · rw [hrank.target htarget, hother.target htarget]
  · obtain ⟨⟨first, hfirst, hid, rfl⟩, hleast⟩ := hrank.caller htarget
    obtain ⟨⟨second, hsecond, hsame, rfl⟩, hleastToo⟩ := hother.caller htarget
    exact Nat.le_antisymm (hleast second hsecond hsame) (hleastToo first hfirst hid)

/-- The rank of a caller is at most the depth of each of its entries. -/
theorem le_depth {entry : ImpactEntry} (hentry : entry ∈ entries)
    (hrank : HasRank targetId entries entry.caller.id rank) : rank ≤ entry.depth := by
  by_cases htarget : entry.caller.id = targetId
  · rw [hrank.target htarget]
    exact Nat.zero_le _
  · exact (hrank.caller htarget).2 entry hentry rfl

/-- Entries that are as deep leave a rank as it is. -/
theorem append (hrank : HasRank targetId entries id rank) {fresh : List ImpactEntry}
    (hfresh : ∀ entry ∈ fresh, rank ≤ entry.depth) :
    HasRank targetId (entries ++ fresh) id rank where
  target := hrank.target
  caller := by
    intro htarget
    obtain ⟨⟨entry, hentry, hid⟩, hleast⟩ := hrank.caller htarget
    refine ⟨⟨entry, List.mem_append_left _ hentry, hid⟩, fun other hother hsame ↦ ?_⟩
    rcases List.mem_append.mp hother with hold | hnew
    · exact hleast other hold hsame
    · exact hfresh other hnew

/-- Ranks are not larger than all depths. -/
theorem le_of_forall (hrank : HasRank targetId entries id rank) {bound : Nat}
    (hbound : ∀ entry ∈ entries, entry.depth ≤ bound) : rank ≤ bound := by
  by_cases htarget : id = targetId
  · rw [hrank.target htarget]
    exact Nat.zero_le _
  · obtain ⟨⟨entry, hentry, -, rfl⟩, -⟩ := hrank.caller htarget
    exact hbound entry hentry

/-- Ranks do not depend on the order of the entries. -/
theorem perm {others : List ImpactEntry} (hrank : HasRank targetId entries id rank)
    (hperm : others.Perm entries) : HasRank targetId others id rank where
  target := hrank.target
  caller := by
    simp only [hperm.mem_iff]
    exact hrank.caller

/-- What has a rank is the target or a caller. -/
theorem eq_or_exists (hrank : HasRank targetId entries id rank) :
    id = targetId ∨ ∃ entry ∈ entries, entry.caller.id = id := by
  refine or_iff_not_imp_left.mpr fun htarget ↦ ?_
  obtain ⟨⟨entry, hentry, hid, -⟩, -⟩ := hrank.caller htarget
  exact ⟨entry, hentry, hid⟩

end HasRank

/-! ### Levels -/

namespace Impact

/-- One entry for each site, none deeper than the reach, and each calls a symbol whose rank is one
less than the depth. -/
structure Layered (targetId : Int) (reach : Nat) (entries : List ImpactEntry) : Prop where
  once : (entries.map ImpactEntry.site).Nodup
  depth_le : ∀ entry ∈ entries, entry.depth ≤ reach
  callee : ∀ entry ∈ entries, ∃ rank, entry.depth = rank + 1 ∧
    HasRank targetId entries entry.calleeId rank

variable {callers : List Int → List CallerEdge} {limits : ImpactLimits} {targetId : Int}

theorem layered_nil (targetId : Int) : Layered targetId 0 [] where
  once := List.nodup_nil
  depth_le := fun _ hentry ↦ nomatch hentry
  callee := fun _ hentry ↦ nomatch hentry

theorem Layered.perm {reach : Nat} {entries others : List ImpactEntry}
    (hlayered : Layered targetId reach entries) (hperm : others.Perm entries) :
    Layered targetId reach others where
  once := (hperm.map ImpactEntry.site).nodup_iff.mpr hlayered.once
  depth_le := fun entry hentry ↦ hlayered.depth_le entry (hperm.mem_iff.mp hentry)
  callee := by
    intro entry hentry
    obtain ⟨rank, hdepth, hcallee⟩ := hlayered.callee entry (hperm.mem_iff.mp hentry)
    exact ⟨rank, hdepth, hcallee.perm hperm⟩

/-- A level that expands symbols of the last rank adds entries of the next depth, and the symbols to
expand after it have that rank. -/
theorem Layered.visit {reach : Nat} {frontier : List Int} {met : List ImpactEntry}
    (hmet : Layered targetId reach met)
    (hfrontier : ∀ id ∈ frontier, HasRank targetId met id reach)
    (hcallers : ∀ edge ∈ callers frontier, edge.calleeId ∈ frontier) (maxResults : Nat) :
    let level := Impact.visit maxResults targetId (reach + 1) (callers frontier) ⟨met, [], false⟩
    Layered targetId (reach + 1) level.entries ∧
      ∀ id ∈ level.next, HasRank targetId level.entries id (reach + 1) := by
  intro level
  have hlevel : Visited targetId (reach + 1) met (callers frontier) level :=
    visited_visit maxResults targetId (reach + 1) (callers frontier) hmet.once
  obtain ⟨fresh, hentries, hfresh⟩ := hlevel.entries
  have hdepth : ∀ entry ∈ fresh, entry.depth = reach + 1 := by
    intro entry hentry
    obtain ⟨edge, -, rfl⟩ := hfresh entry hentry
    rfl
  have hkept : ∀ {id : Int} {rank : Nat}, HasRank targetId met id rank → rank ≤ reach + 1 →
      HasRank targetId level.entries id rank := by
    intro id rank hrank hle
    rw [hentries]
    exact hrank.append fun entry hentry ↦ hdepth entry hentry ▸ hle
  refine ⟨⟨hlevel.once, fun entry hentry ↦ ?_, fun entry hentry ↦ ?_⟩, fun id hid ↦ ?_⟩
  · rw [hentries] at hentry
    rcases List.mem_append.mp hentry with hold | hnew
    · exact Nat.le_succ_of_le (hmet.depth_le entry hold)
    · exact Nat.le_of_eq (hdepth entry hnew)
  · rw [hentries] at hentry
    rcases List.mem_append.mp hentry with hold | hnew
    · obtain ⟨rank, hrank, hcallee⟩ := hmet.callee entry hold
      have hle := hmet.depth_le entry hold
      exact ⟨rank, hrank, hkept hcallee (by omega)⟩
    · obtain ⟨edge, hedge, rfl⟩ := hfresh entry hnew
      exact ⟨reach, rfl, hkept (hfrontier _ (hcallers edge hedge)) (Nat.le_succ reach)⟩
  · obtain ⟨hother, hunmet, entry, hentry, hcaller⟩ := (hlevel.next id).mp hid
    have hnew : ∀ other ∈ level.entries, other.caller.id = id → other.depth = reach + 1 := by
      intro other hmem hsame
      rw [hentries] at hmem
      rcases List.mem_append.mp hmem with hold | hfreshMem
      · exact absurd hsame (hunmet other hold)
      · exact hdepth other hfreshMem
    refine ⟨fun htarget ↦ absurd htarget hother, fun _ ↦ ⟨?_, fun other hmem hsame ↦ ?_⟩⟩
    · exact ⟨entry, hentry, hcaller, hnew entry hentry hcaller⟩
    · exact Nat.le_of_eq (hnew other hmem hsame).symm

/-- What a traversal meets is layered, wherever it stops. -/
theorem layered_follow
    (hcallers : ∀ frontier, ∀ edge ∈ callers frontier, edge.calleeId ∈ frontier)
    {remaining reach : Nat} {frontier : List Int} {met : List ImpactEntry}
    (hmet : Layered targetId reach met)
    (hfrontier : ∀ id ∈ frontier, HasRank targetId met id reach) :
    ∃ last, Layered targetId last
      (follow callers limits targetId remaining (reach + 1) frontier met).1 := by
  generalize hdepth : reach + 1 = depth
  unfold follow
  fun_induction traverse callers limits targetId remaining depth frontier met
    generalizing reach with
  | case1 => exact ⟨reach, hmet⟩
  | case2 => exact ⟨reach, hmet⟩
  | case3 => exact ⟨reach, hmet⟩
  | case4 =>
    subst hdepth
    exact ⟨_, (hmet.visit hfrontier (hcallers _) limits.maxResults).1⟩
  | case5 =>
    rename_i ih
    subst hdepth
    obtain ⟨hlayered, hnext⟩ := hmet.visit hfrontier (hcallers _) limits.maxResults
    exact ih hlayered hnext rfl

end Impact

/-! ### Drawing entries -/

namespace ImpactGraph

/-- The node of a symbol at a rank. -/
def nodeOf (symbol : SymbolSummary) (rank : Nat) : GraphNode where
  id := symbol.id
  label := symbol.name
  filePath := symbol.filePath
  rank := rank

/-- The edge of an entry. -/
def edgeOf (entry : ImpactEntry) : GraphEdge where
  source := entry.caller.id
  target := entry.calleeId
  line := entry.line

/-- The graph shows the target and the entries that were drawn. -/
structure Draws (target : SymbolSummary) (entries : List ImpactEntry) (graph : ImpactGraph) :
    Prop where
  /-- The target comes first, and the other nodes are those of callers. -/
  nodes : ∃ rest, graph.nodes = nodeOf target 0 :: rest ∧
    ∀ node ∈ rest, ∃ entry ∈ entries, node = nodeOf entry.caller entry.depth
  ids : (graph.nodes.map (·.id)).Nodup
  callers : ∀ entry ∈ entries, entry.caller.id ∈ graph.nodes.map (·.id)
  ranks : ∀ node ∈ graph.nodes, HasRank target.id entries node.id node.rank
  edges : ∀ edge, edge ∈ graph.edges ↔ ∃ entry ∈ entries, edge = edgeOf entry
  once : graph.edges.Nodup

variable {target : SymbolSummary} {entries : List ImpactEntry} {graph : ImpactGraph}

theorem draws_single (target : SymbolSummary) : Draws target [] (single target) where
  nodes := ⟨[], rfl, fun _ hnode ↦ nomatch hnode⟩
  ids := List.nodup_singleton _
  callers := fun _ hentry ↦ nomatch hentry
  ranks := by
    intro node hnode
    obtain rfl := List.mem_singleton.mp hnode
    exact HasRank.zero target.id []
  edges := by simp [single]
  once := List.nodup_nil

/-- An entry brings in the node of its caller, unless the caller has one. -/
theorem nodes_addEntry (graph : ImpactGraph) (entry : ImpactEntry) :
    (graph.addEntry entry).nodes = if entry.caller.id ∈ graph.nodes.map (·.id) then graph.nodes
      else graph.nodes ++ [nodeOf entry.caller entry.depth] := by
  have hnodes : ∀ (other : ImpactGraph) (edge : GraphEdge),
      (other.addEdge edge).nodes = other.nodes := by
    intro other edge
    unfold addEdge
    split
    · rfl
    · rfl
  rw [addEntry, hnodes, addNode]
  simp only [List.any_eq_true, beq_iff_eq, List.mem_map]
  split
  · rfl
  · rfl

/-- An entry brings in its edge, unless it is there. -/
theorem edges_addEntry (graph : ImpactGraph) (entry : ImpactEntry) :
    (graph.addEntry entry).edges =
      if edgeOf entry ∈ graph.edges then graph.edges else graph.edges ++ [edgeOf entry] := by
  have hedges : ∀ node : GraphNode, (graph.addNode node).edges = graph.edges := by
    intro node
    unfold addNode
    split
    · rfl
    · rfl
  rw [addEntry, addEdge, hedges]
  simp only [List.contains_iff_mem]
  split
  · exact (hedges _).trans (if_pos ‹_›).symm
  · exact (if_neg ‹_›).symm

theorem mem_edges_addEntry_iff {entry : ImpactEntry} {edge : GraphEdge} :
    edge ∈ (graph.addEntry entry).edges ↔ edge ∈ graph.edges ∨ edge = edgeOf entry := by
  rw [edges_addEntry]
  split
  · rename_i hold
    refine ⟨.inl, ?_⟩
    rintro (hedge | rfl)
    · exact hedge
    · exact hold
  · rw [List.mem_append, List.mem_singleton]

/-- The caller of the entry has no node before it is drawn, so it gets the depth of the entry. -/
theorem Draws.addNewCaller (hdraws : Draws target entries graph) {entry : ImpactEntry}
    (hnew : entry.caller.id ∉ graph.nodes.map (·.id)) :
    HasRank target.id (entries ++ [entry]) entry.caller.id entry.depth where
  target := by
    intro htarget
    obtain ⟨rest, hnodes, -⟩ := hdraws.nodes
    rw [htarget, hnodes] at hnew
    exact absurd List.mem_cons_self hnew
  caller := by
    refine fun _ ↦ ⟨⟨entry, List.mem_append_right _ (List.mem_singleton_self _), rfl, rfl⟩, ?_⟩
    intro other hother hsame
    rcases List.mem_append.mp hother with hold | hlast
    · exact absurd (hsame ▸ hdraws.callers other hold) hnew
    · obtain rfl := List.mem_singleton.mp hlast
      exact Nat.le_refl _

/-- Drawing an entry that is as deep as those before it. -/
theorem Draws.addEntry (hdraws : Draws target entries graph) {entry : ImpactEntry}
    (hdeepest : ∀ other ∈ entries, other.depth ≤ entry.depth) :
    Draws target (entries ++ [entry]) (graph.addEntry entry) := by
  obtain ⟨rest, hnodes, hrest⟩ := hdraws.nodes
  have hkept : ∀ node ∈ rest, ∃ drawn ∈ entries ++ [entry],
      node = nodeOf drawn.caller drawn.depth := by
    intro node hnode
    obtain ⟨drawn, hdrawn, hsame⟩ := hrest node hnode
    exact ⟨drawn, List.mem_append_left _ hdrawn, hsame⟩
  have hranks : ∀ node ∈ graph.nodes, HasRank target.id (entries ++ [entry]) node.id node.rank := by
    intro node hnode
    have hrank := hdraws.ranks node hnode
    refine hrank.append (List.forall_mem_singleton.mpr ?_)
    exact hrank.le_of_forall hdeepest
  have hedges : ∀ edge, edge ∈ (graph.addEntry entry).edges ↔
      ∃ drawn ∈ entries ++ [entry], edge = edgeOf drawn := by
    intro edge
    rw [mem_edges_addEntry_iff, hdraws.edges]
    simp only [List.mem_append, List.mem_singleton, or_and_right, exists_or, exists_eq_left]
  have honce : (graph.addEntry entry).edges.Nodup := by
    rw [edges_addEntry]
    split
    · exact hdraws.once
    · rename_i hnew
      exact hdraws.once.append (List.nodup_singleton _) (List.disjoint_singleton.mpr hnew)
  by_cases hcaller : entry.caller.id ∈ graph.nodes.map (·.id)
  · have hsame : (graph.addEntry entry).nodes = graph.nodes := by
      rw [nodes_addEntry, if_pos hcaller]
    refine ⟨⟨rest, hsame.trans hnodes, hkept⟩, ?_, ?_, ?_, hedges, honce⟩
    · rw [hsame]
      exact hdraws.ids
    · rw [hsame]
      exact List.forall_mem_append.mpr ⟨hdraws.callers, List.forall_mem_singleton.mpr hcaller⟩
    · rw [hsame]
      exact hranks
  · have hsame : (graph.addEntry entry).nodes =
        graph.nodes ++ [nodeOf entry.caller entry.depth] := by
      rw [nodes_addEntry, if_neg hcaller]
    refine ⟨⟨rest ++ [nodeOf entry.caller entry.depth], ?_, ?_⟩, ?_, ?_, ?_, hedges, honce⟩
    · rw [hsame, hnodes, List.cons_append]
    · refine List.forall_mem_append.mpr ⟨hkept, List.forall_mem_singleton.mpr ?_⟩
      exact ⟨entry, List.mem_append_right _ (List.mem_singleton_self _), rfl⟩
    · rw [hsame, List.map_append]
      exact hdraws.ids.append (List.nodup_singleton _) (List.disjoint_singleton.mpr hcaller)
    · rw [hsame, List.map_append]
      refine List.forall_mem_append.mpr ⟨fun drawn hdrawn ↦ ?_, List.forall_mem_singleton.mpr ?_⟩
      · exact List.mem_append_left _ (hdraws.callers drawn hdrawn)
      · exact List.mem_append_right _ (List.mem_singleton_self _)
    · rw [hsame]
      exact List.forall_mem_append.mpr
        ⟨hranks, List.forall_mem_singleton.mpr (hdraws.addNewCaller hcaller)⟩

/-- Drawing entries in the order of their depths. -/
theorem Draws.foldl (hdraws : Draws target entries graph) {rest : List ImpactEntry}
    (hsorted : (entries ++ rest).Pairwise fun left right ↦ left.depth ≤ right.depth) :
    Draws target (entries ++ rest) (rest.foldl ImpactGraph.addEntry graph) := by
  induction rest generalizing entries graph with
  | nil =>
    rw [List.append_nil]
    exact hdraws
  | cons entry rest ih =>
    have hdeepest : ∀ other ∈ entries, other.depth ≤ entry.depth := fun other hother ↦
      (List.pairwise_append.mp hsorted).2.2 other hother entry List.mem_cons_self
    rw [List.append_cons] at hsorted ⊢
    exact ih (hdraws.addEntry hdeepest) hsorted

/-- The graph of a report draws its entries. -/
theorem draws_ofReport (target : SymbolSummary) (ambiguousWith maxDepth : Nat)
    (met : List ImpactEntry) (truncated : Bool) :
    Draws target (sortBy ImpactEntry.order met)
      (ofReport (Impact.report target ambiguousWith maxDepth met truncated)) :=
  (draws_single target).foldl ((pairwise_sortBy met).imp ImpactEntry.depth_le_of_order)

/-! ### Closed and layered graphs -/

/-- A path of so many edges leads from one symbol to another. -/
inductive Path (graph : ImpactGraph) (last : Int) : (length : Nat) → Int → Prop
  | here : Path graph last 0 last
  | edge {length : Nat} {edge : GraphEdge} (hedge : edge ∈ graph.edges)
      (hpath : Path graph last length edge.target) : Path graph last (length + 1) edge.source

/-- The graph has the symbols of the report as nodes, ranked by their smallest depths, and the calls
between them as edges, and its edges lead down to the target rank by rank. -/
structure IsLayered (report : ImpactReport) (graph : ImpactGraph) : Prop where
  ids : (graph.nodes.map (·.id)).Nodup
  edges : graph.edges.Nodup
  /-- The target comes first, and is the only node of rank zero. -/
  target : ∃ rest, graph.nodes = nodeOf report.target 0 :: rest ∧ ∀ node ∈ rest, node.rank ≠ 0
  /-- The nodes are the target and the callers. -/
  nodes : ∀ id, id ∈ graph.nodes.map (·.id) ↔
    id = report.target.id ∨ ∃ entry ∈ report.entries, entry.caller.id = id
  /-- The edges are the calls of the entries. -/
  calls : ∀ edge, edge ∈ graph.edges ↔ ∃ entry ∈ report.entries, edge = edgeOf entry
  ends : ∀ edge ∈ graph.edges,
    edge.source ∈ graph.nodes.map (·.id) ∧ edge.target ∈ graph.nodes.map (·.id)
  /-- The rank of a caller is its smallest depth. -/
  ranks : ∀ node ∈ graph.nodes, node.id ≠ report.target.id →
    (∃ entry ∈ report.entries, entry.caller.id = node.id ∧ entry.depth = node.rank) ∧
      ∀ entry ∈ report.entries, entry.caller.id = node.id → node.rank ≤ entry.depth
  /-- Ranks fall by at most one along an edge. -/
  falls : ∀ edge ∈ graph.edges, ∀ source ∈ graph.nodes, ∀ target ∈ graph.nodes,
    source.id = edge.source → target.id = edge.target → source.rank ≤ target.rank + 1
  /-- Each node but the target has an edge to a node of the rank below. -/
  below : ∀ node ∈ graph.nodes, ∀ rank, node.rank = rank + 1 → ∃ edge ∈ graph.edges,
    edge.source = node.id ∧ ∃ other ∈ graph.nodes, other.id = edge.target ∧ other.rank = rank
  /-- Such edges lead to the target. -/
  paths : ∀ node ∈ graph.nodes, graph.Path report.target.id node.rank node.id

variable {report : ImpactReport} {reach : Nat}

/-- In a layered report a caller other than the target has a positive rank. -/
theorem rank_ne_zero (hlayered : Impact.Layered target.id reach entries) {node : GraphNode}
    (hrank : HasRank target.id entries node.id node.rank) (hother : node.id ≠ target.id) :
    node.rank ≠ 0 := by
  obtain ⟨⟨entry, hentry, -, hdepth⟩, -⟩ := hrank.caller hother
  obtain ⟨rank, hsucc, -⟩ := hlayered.callee entry hentry
  omega

/-- What has a rank among the entries that were drawn has a node of this rank. -/
theorem Draws.exists_node (hdraws : Draws target entries graph) {id : Int} {rank : Nat}
    (hrank : HasRank target.id entries id rank) :
    ∃ node ∈ graph.nodes, node.id = id ∧ node.rank = rank := by
  have hmem : id ∈ graph.nodes.map (·.id) := by
    rcases hrank.eq_or_exists with rfl | ⟨entry, hentry, rfl⟩
    · obtain ⟨rest, hnodes, -⟩ := hdraws.nodes
      rw [hnodes]
      exact List.mem_cons_self
    · exact hdraws.callers entry hentry
  obtain ⟨node, hnode, rfl⟩ := List.mem_map.mp hmem
  exact ⟨node, hnode, rfl, (hdraws.ranks node hnode).unique hrank⟩

/-- A node that is not the target has an edge to a node of the rank below. -/
theorem Draws.below (hdraws : Draws target entries graph)
    (hlayered : Impact.Layered target.id reach entries) {node : GraphNode}
    (hnode : node ∈ graph.nodes) {rank : Nat} (hsucc : node.rank = rank + 1) :
    ∃ edge ∈ graph.edges, edge.source = node.id ∧
      ∃ other ∈ graph.nodes, other.id = edge.target ∧ other.rank = rank := by
  have hrank := hdraws.ranks node hnode
  have hother : node.id ≠ target.id := fun htarget ↦ by
    have hzero := hrank.target htarget
    omega
  obtain ⟨⟨entry, hentry, hcaller, hdepth⟩, -⟩ := hrank.caller hother
  obtain ⟨below, hbelow, hcallee⟩ := hlayered.callee entry hentry
  obtain rfl : below = rank := by omega
  exact ⟨edgeOf entry, (hdraws.edges _).mpr ⟨entry, hentry, rfl⟩, hcaller,
    hdraws.exists_node hcallee⟩

/-- From every node a path of its rank leads to the target. -/
theorem Draws.path (hdraws : Draws target entries graph)
    (hlayered : Impact.Layered target.id reach entries) {node : GraphNode}
    (hnode : node ∈ graph.nodes) : graph.Path target.id node.rank node.id := by
  generalize hrank : node.rank = rank
  induction rank generalizing node with
  | zero =>
    by_cases htarget : node.id = target.id
    · rw [htarget]
      exact .here
    · exact absurd hrank (rank_ne_zero hlayered (hdraws.ranks node hnode) htarget)
  | succ rank ih =>
    obtain ⟨edge, hedge, hsource, other, hother, hid, hbelow⟩ :=
      hdraws.below hlayered hnode hrank
    have hpath := ih hother hbelow
    rw [hid] at hpath
    rw [← hsource]
    exact .edge hedge hpath

/-- Drawing layered entries gives a layered graph. -/
theorem Draws.isLayered (hdraws : Draws report.target report.entries graph)
    (hlayered : Impact.Layered report.target.id reach report.entries) : graph.IsLayered report := by
  obtain ⟨rest, hnodes, hrest⟩ := hdraws.nodes
  refine ⟨hdraws.ids, hdraws.once, ⟨rest, hnodes, fun node hnode ↦ ?_⟩, fun id ↦ ⟨?_, ?_⟩,
    hdraws.edges, fun edge hedge ↦ ?_, fun node hnode ↦ (hdraws.ranks node hnode).caller, ?_,
    fun node hnode rank hsucc ↦ hdraws.below hlayered hnode hsucc,
    fun node hnode ↦ hdraws.path hlayered hnode⟩
  · obtain ⟨entry, hentry, rfl⟩ := hrest node hnode
    obtain ⟨rank, hdepth, -⟩ := hlayered.callee entry hentry
    exact hdepth ▸ Nat.succ_ne_zero rank
  · rintro hid
    obtain ⟨node, hnode, rfl⟩ := List.mem_map.mp hid
    exact (hdraws.ranks node hnode).eq_or_exists
  · rintro (rfl | ⟨entry, hentry, rfl⟩)
    · rw [hnodes]
      exact List.mem_cons_self
    · exact hdraws.callers entry hentry
  · obtain ⟨entry, hentry, rfl⟩ := (hdraws.edges edge).mp hedge
    obtain ⟨rank, -, hcallee⟩ := hlayered.callee entry hentry
    obtain ⟨node, hnode, hid, -⟩ := hdraws.exists_node hcallee
    exact ⟨hdraws.callers entry hentry, List.mem_map.mpr ⟨node, hnode, hid⟩⟩
  · intro edge hedge source hsource last hlast hsourceId hlastId
    obtain ⟨entry, hentry, rfl⟩ := (hdraws.edges edge).mp hedge
    obtain ⟨rank, hdepth, hcallee⟩ := hlayered.callee entry hentry
    have hsourceRank := hdraws.ranks source hsource
    rw [hsourceId] at hsourceRank
    have hlastRank := hdraws.ranks last hlast
    rw [hlastId] at hlastRank
    rw [hlastRank.unique hcallee, ← hdepth]
    exact hsourceRank.le_depth hentry

end ImpactGraph

/-- In any store, whatever the query, in whatever order the edges of a frontier come, and wherever a
budget stops the traversal, the graph of the report is closed and layered. -/
theorem isLayered_ofReport {store : Store} {projectId : Int} {query : ImpactQuery}
    {limits : ImpactLimits} {callers : List Int → List CallerEdge}
    (hcallers : ∀ frontier, (callers frontier).Perm (store.callersOf projectId frontier))
    {report : ImpactReport}
    (hfound : Impact.analyzeBy callers store projectId query limits = .found report) :
    (ImpactGraph.ofReport report).IsLayered report := by
  unfold Impact.analyzeBy at hfound
  split at hfound
  · cases hfound
  · rename_i target others hsymbols
    obtain rfl := ImpactOutcome.found.inj hfound
    have hcallee : ∀ frontier, ∀ edge ∈ callers frontier, edge.calleeId ∈ frontier :=
      fun frontier _ hedge ↦ (Store.mem_callersOf_iff.mp ((hcallers frontier).mem_iff.mp hedge)).1
    have hfrontier : ∀ id ∈ [target.id], HasRank target.id [] id 0 := by
      intro id hid
      obtain rfl := List.mem_singleton.mp hid
      exact HasRank.zero target.id []
    obtain ⟨reach, hlayered⟩ : ∃ reach, Impact.Layered target.id reach (Impact.follow
        callers limits target.id query.maxDepth 1 [target.id] []).1 :=
      Impact.layered_follow hcallee (Impact.layered_nil target.id) hfrontier
    exact (ImpactGraph.draws_ofReport target.summary _ _ _ _).isLayered
      (hlayered.perm (perm_sortBy ImpactEntry.order _))

/-- In the circle of calls a budget of three call sites leaves out the last call, by which the
target would be a caller itself. -/
theorem isLayered_circleOfCalls : ∃ report,
    Impact.analyzeBy ((storeAfter circleOfCalls).callersOf 1) (storeAfter circleOfCalls) 1
        ⟨"c", none, 5⟩ ⟨fun _ ↦ false, 3⟩ = .found report ∧
      report.truncated = true ∧ (ImpactGraph.ofReport report).IsLayered report ∧
      (ImpactGraph.ofReport report).nodes.map (fun node ↦ (node.label, node.rank)) =
        [("c", 0), ("b", 1), ("d", 1), ("a", 2)] := by
  generalize houtcome : Impact.analyzeBy ((storeAfter circleOfCalls).callersOf 1)
    (storeAfter circleOfCalls) 1 ⟨"c", none, 5⟩ ⟨fun _ ↦ false, 3⟩ = outcome
  have hreport : outcome.report.toOption.map (fun report ↦ (report.truncated,
        (ImpactGraph.ofReport report).nodes.map fun node ↦ (node.label, node.rank))) =
      some (true, [("c", 0), ("b", 1), ("d", 1), ("a", 2)]) := by
    rw [← houtcome]
    cbv
  cases outcome with
  | notFound symbol => cases hreport
  | found report =>
    obtain ⟨htruncated, hnodes⟩ := Prod.mk.inj (Option.some.inj hreport)
    exact ⟨report, rfl, htruncated,
      isLayered_ofReport (fun _ ↦ List.Perm.refl _) houtcome, hnodes⟩

end SymbolGraph
