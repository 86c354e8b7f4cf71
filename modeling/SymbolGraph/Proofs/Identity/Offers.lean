import Mathlib.Data.List.Nodup
import SymbolGraph.Proofs.Identity

/-!
# What a sink is offered

A sink may answer by anything it has seen. To say what it is offered, it is made to note every offer
with its answer (`SymbolSink.noting`), which changes nothing else (`persist_noting`). When tags are
distinct and parents come before what is inside them (`IsTopDown`), a run offers just the
declarations all of whose ancestors were accepted, each below the id that its parent got, up to the
first answer that is neither an id nor a conflict (`ended_persist`).

The run looks at the parent alone. That it keeps a part which is closed under all ancestors is the
invariant `Offered`: what was handled so far was offered exactly when its parent has an id. Later
offers do not matter for it, as the parent of what was handled is not the tag of a later one.
-/

set_option autoImplicit false
set_option relaxedAutoImplicit false

namespace SymbolGraph

/-- The place of the declaration is held by another kind, and the run goes on. -/
def GraphError.isConflict : GraphError → Bool
  | .storageConflict .. => true
  | _ => false

/-- A declaration offered below a parent, and what the sink answered. -/
structure Offer where
  parentId : Option Int
  declaration : Declaration
  answer : Except GraphError Int

namespace Offer

/-- The declaration got an id. -/
def isAccepted (offer : Offer) : Bool :=
  match offer.answer with
  | .ok _ => true
  | .error _ => false

/-- The declaration conflicted. -/
def isConflict (offer : Offer) : Bool :=
  match offer.answer with
  | .ok _ => false
  | .error failure => failure.isConflict

/-- The answer ends the run. -/
def isFatal (offer : Offer) : Bool :=
  match offer.answer with
  | .ok _ => false
  | .error failure => !failure.isConflict

end Offer

/-- The sink, which also notes what it is offered and what it answers. -/
def SymbolSink.noting {σ : Type} (sink : SymbolSink σ) : SymbolSink (σ × List Offer) :=
  fun parentId declaration noted ↦
    ((sink parentId declaration noted.1).1, (sink parentId declaration noted.1).2,
      noted.2 ++ [⟨parentId, declaration, (sink parentId declaration noted.1).1⟩])

namespace Identity

/-- Tags are distinct, and no declaration comes before its parent. -/
structure IsTopDown (declared : List Declaration) : Prop where
  tags : (declared.map (·.tag)).Nodup
  parents : declared.Pairwise fun earlier later ↦ earlier.parent ≠ some later.tag
  self : ∀ declaration ∈ declared, declaration.parent ≠ some declaration.tag

/-- The tag is that of the declaration's parent, or of one around that. It may be the tag of nothing
that is declared. -/
inductive IsAncestor (declared : List Declaration) : Declaration → Nat → Prop
  | parent {declaration : Declaration} {tag : Nat} (hparent : declaration.parent = some tag) :
      IsAncestor declared declaration tag
  | outer {declaration middle : Declaration} {tag : Nat} (hmiddle : middle ∈ declared)
      (hparent : declaration.parent = some middle.tag) (houter : IsAncestor declared middle tag) :
      IsAncestor declared declaration tag

/-- The declaration of the tag was accepted under the id. -/
def Gives (offers : List Offer) (tag : Nat) (id : Int) : Prop :=
  ∃ offer ∈ offers, offer.declaration.tag = tag ∧ offer.answer = .ok id

/-- The declaration of the tag conflicted. -/
def Conflicts (offers : List Offer) (tag : Nat) : Prop :=
  ∃ offer ∈ offers, offer.declaration.tag = tag ∧ offer.isConflict = true

/-- The id below which a declaration with the parent belongs is the one that the parent got. -/
inductive IsPlaced (offers : List Offer) : Option Nat → Option Int → Prop
  | root : IsPlaced offers none none
  | below {tag : Nat} {id : Int} (hgives : Gives offers tag id) :
      IsPlaced offers (some tag) (some id)

/-- Of the handled declarations, those were offered all of whose ancestors were accepted, in order
and once each, every one below the id of its parent. -/
structure IsParentClosed (declared handled : List Declaration) (offers : List Offer) : Prop where
  inOrder : (offers.map (·.declaration)).Sublist handled
  once : (offers.map (·.declaration.tag)).Nodup
  offered_iff : ∀ declaration ∈ handled, declaration ∈ offers.map (·.declaration) ↔
    ∀ tag, IsAncestor declared declaration tag → ∃ id, Gives offers tag id
  placed : ∀ offer ∈ offers, IsPlaced offers offer.declaration.parent offer.parentId

/-- All declarations were handled: ids and counts are those of the answers, and what was not offered
is below a conflict or below what is not declared. -/
structure IsComplete (declared : List Declaration) (last : PersistState) (offers : List Offer) :
    Prop extends IsParentClosed declared declared offers where
  notFatal : ∀ offer ∈ offers, offer.isFatal = false
  ids : ∀ tag id, last.scope.resolve? tag = some id ↔ Gives offers tag id
  stored : last.stats.stored = offers.countP (·.isAccepted)
  conflicts : last.stats.conflicts = offers.countP (·.isConflict)
  orphans : last.stats.orphansSkipped =
    declared.countP fun declaration ↦ declaration ∉ offers.map (·.declaration)
  total : last.stats.stored + last.stats.conflicts + last.stats.orphansSkipped = declared.length
  orphan_iff : ∀ declaration ∈ declared, declaration ∉ offers.map (·.declaration) ↔
    ∃ tag, IsAncestor declared declaration tag ∧
      (Conflicts offers tag ∨ ∀ other ∈ declared, other.tag ≠ tag)

/-- How a run over declarations ends. -/
inductive Ended (declared : List Declaration) :
    Except GraphError PersistState → List Offer → Prop
  /-- No answer was fatal. -/
  | complete {last : PersistState} {offers : List Offer}
      (hcomplete : IsComplete declared last offers) : Ended declared (.ok last) offers
  /-- The first fatal answer is returned, and nothing is offered after it. -/
  | cutShort {before after : List Declaration} {refused : Declaration} {earlier : List Offer}
      {parentId : Option Int} {failure : GraphError}
      (hdeclared : declared = before ++ refused :: after)
      (hfatal : failure.isConflict = false) (hearlier : ∀ offer ∈ earlier, offer.isFatal = false)
      (hclosed : IsParentClosed declared (before ++ [refused])
        (earlier ++ [⟨parentId, refused, .error failure⟩])) :
      Ended declared (.error failure) (earlier ++ [⟨parentId, refused, .error failure⟩])

/-! ### Answers -/

section Answers

variable {offers : List Offer} {tag : Nat}

theorem gives_concat_iff {offer : Offer} {id : Int} : Gives (offers ++ [offer]) tag id ↔
    Gives offers tag id ∨ (offer.declaration.tag = tag ∧ offer.answer = .ok id) := by
  simp [Gives, or_and_right, exists_or]

theorem IsPlaced.concat {parent : Option Nat} {parentId : Option Int}
    (hplaced : IsPlaced offers parent parentId) (offer : Offer) :
    IsPlaced (offers ++ [offer]) parent parentId := by
  cases hplaced with
  | root => exact .root
  | below hgives => exact .below (gives_concat_iff.mpr (Or.inl hgives))

theorem IsPlaced.exists_gives {parent : Option Nat} {parentId : Option Int}
    (hplaced : IsPlaced offers parent parentId) (hparent : parent = some tag) :
    ∃ id, Gives offers tag id := by
  cases hplaced with
  | root => cases hparent
  | @below other id hgives =>
    obtain rfl := Option.some.inj hparent
    exact ⟨id, hgives⟩

/-- An answer is an id, a conflict, or fatal. -/
theorem length_eq_of_notFatal (hnotFatal : ∀ offer ∈ offers, offer.isFatal = false) :
    offers.length = offers.countP (·.isAccepted) + offers.countP (·.isConflict) := by
  rw [List.length_eq_countP_add_countP (·.isAccepted)]
  refine congrArg _ (List.countP_congr fun offer hmem ↦ ?_)
  have hanswer := hnotFatal offer hmem
  unfold Offer.isFatal at hanswer
  unfold Offer.isAccepted Offer.isConflict
  cases hcase : offer.answer with
  | ok id => simp
  | error failure => simpa [hcase] using hanswer

end Answers

/-! ### Declarations in order -/

namespace IsTopDown

variable {before after declared : List Declaration} {declaration : Declaration}

theorem eq_of_tag_eq (htop : IsTopDown declared) {first second : Declaration}
    (hfirst : first ∈ declared) (hsecond : second ∈ declared) (htag : first.tag = second.tag) :
    first = second :=
  List.inj_on_of_nodup_map htop.tags hfirst hsecond htag

/-- The tag of a declaration is new, and no earlier one has it as its parent. -/
theorem of_mem_before (htop : IsTopDown (before ++ declaration :: after)) {earlier : Declaration}
    (hearlier : earlier ∈ before) :
    earlier.tag ≠ declaration.tag ∧ earlier.parent ≠ some declaration.tag := by
  have htags := htop.tags
  rw [List.map_append, List.map_cons] at htags
  refine ⟨fun hsame ↦ ?_, ?_⟩
  · have hdisjoint := (List.nodup_append.mp htags).2.2
    exact hdisjoint _ (List.mem_map_of_mem hearlier) _ List.mem_cons_self hsame
  · exact (List.pairwise_append.mp htop.parents).2.2 earlier hearlier declaration
      List.mem_cons_self

/-- A parent that is declared is declared before. -/
theorem mem_before (htop : IsTopDown (before ++ declaration :: after)) {middle : Declaration}
    (hmiddle : middle ∈ before ++ declaration :: after)
    (hparent : declaration.parent = some middle.tag) : middle ∈ before := by
  rcases List.mem_append.mp hmiddle with hearlier | hlater
  · exact hearlier
  · rcases List.mem_cons.mp hlater with rfl | hafter
    · exact absurd hparent (htop.self _ hmiddle)
    · have hpairs := List.pairwise_cons.mp (List.pairwise_append.mp htop.parents).2.1
      exact absurd hparent (hpairs.1 middle hafter)

end IsTopDown

/-! ### One declaration at its turn -/

/-- What was handled was offered in order, just where the parent has an id, below this id. -/
structure Offered (handled : List Declaration) (offers : List Offer) : Prop where
  inOrder : (offers.map (·.declaration)).Sublist handled
  offered_iff : ∀ declaration ∈ handled, declaration ∈ offers.map (·.declaration) ↔
    ∀ tag, declaration.parent = some tag → ∃ id, Gives offers tag id
  placed : ∀ offer ∈ offers, IsPlaced offers offer.declaration.parent offer.parentId

/-- The run has not ended, and its ids and counts are those of the answers. -/
structure Progress (handled : List Declaration) (state : PersistState) (offers : List Offer) : Prop
    extends Offered handled offers where
  notFatal : ∀ offer ∈ offers, offer.isFatal = false
  ids : ∀ tag id, state.scope.resolve? tag = some id ↔ Gives offers tag id
  stored : state.stats.stored = offers.countP (·.isAccepted)
  conflicts : state.stats.conflicts = offers.countP (·.isConflict)
  orphans : state.stats.orphansSkipped + offers.length = handled.length

theorem progress_start : Progress [] .start [] where
  inOrder := .slnil
  offered_iff := fun _ hmem ↦ by cases hmem
  placed := fun _ hmem ↦ by cases hmem
  notFatal := fun _ hmem ↦ by cases hmem
  ids := by simp [PersistState.start, IdentityScope.empty, IdentityScope.resolve?, Gives]
  stored := rfl
  conflicts := rfl
  orphans := rfl

/-- A place is known exactly by the ids that were given. -/
theorem Progress.isPlaced {handled : List Declaration} {state : PersistState}
    {offers : List Offer} (hprogress : Progress handled state offers) {parent : Option Nat}
    {parentId : Option Int} (hplace : state.scope.place? parent = some parentId) :
    IsPlaced offers parent parentId := by
  have hmapped := IdentityScope.place?_eq_some_iff.mp hplace
  cases parent with
  | none =>
    obtain rfl := Option.map_eq_none_iff.mp hmapped.symm
    exact .root
  | some tag =>
    obtain ⟨id, rfl, hfound⟩ := Option.map_eq_some_iff.mp hmapped.symm
    exact .below ((hprogress.ids tag id).mp hfound.symm)

section Turn

variable {handled rest : List Declaration} {declaration : Declaration} {state : PersistState}
  {offers : List Offer} (htop : IsTopDown (handled ++ declaration :: rest))

include htop

/-- The tag of the next declaration was not offered. -/
theorem Offered.tag_ne (hoffered : Offered handled offers) {offer : Offer}
    (hmem : offer ∈ offers) : offer.declaration.tag ≠ declaration.tag :=
  (htop.of_mem_before (hoffered.inOrder.subset (List.mem_map_of_mem hmem))).1

/-- A declaration whose parent has no id is passed over. -/
theorem Offered.pass (hoffered : Offered handled offers) {outer : Nat}
    (hparent : declaration.parent = some outer) (hnone : ∀ id, ¬Gives offers outer id) :
    Offered (handled ++ [declaration]) offers where
  inOrder := hoffered.inOrder.trans (List.sublist_append_left handled [declaration])
  offered_iff := by
    refine List.forall_mem_append.mpr ⟨hoffered.offered_iff, List.forall_mem_singleton.mpr ?_⟩
    refine iff_of_false (fun hmem ↦ ?_) fun hall ↦ ?_
    · obtain ⟨offer, hoffer, hsame⟩ := List.mem_map.mp hmem
      exact hoffered.tag_ne htop hoffer (congrArg Declaration.tag hsame)
    · obtain ⟨id, hgives⟩ := hall outer hparent
      exact hnone id hgives
  placed := hoffered.placed

/-- A declaration in a known place is offered there, whatever the answer. -/
theorem Offered.offer (hoffered : Offered handled offers) {parentId : Option Int}
    (hplaced : IsPlaced offers declaration.parent parentId) (answer : Except GraphError Int) :
    Offered (handled ++ [declaration]) (offers ++ [⟨parentId, declaration, answer⟩]) where
  inOrder := by
    rw [List.map_append, List.map_singleton]
    exact hoffered.inOrder.append (List.Sublist.refl [declaration])
  offered_iff := by
    rw [List.map_append, List.map_singleton]
    refine List.forall_mem_append.mpr ⟨fun earlier hearlier ↦ ?_, List.forall_mem_singleton.mpr ?_⟩
    · obtain ⟨htag, hparent⟩ := htop.of_mem_before hearlier
      have hother : earlier ≠ declaration := fun hsame ↦ htag (congrArg Declaration.tag hsame)
      rw [List.mem_append, List.mem_singleton, or_iff_left hother,
        hoffered.offered_iff earlier hearlier]
      refine forall_congr' fun tag ↦ imp_congr_right fun htagged ↦ exists_congr fun id ↦ ?_
      rw [gives_concat_iff, or_iff_left]
      exact fun hsame ↦ hparent (hsame.1 ▸ htagged)
    · refine iff_of_true (List.mem_append_right _ (List.mem_singleton_self declaration)) ?_
      intro tag hparent
      obtain ⟨id, hgives⟩ := hplaced.exists_gives hparent
      exact ⟨id, gives_concat_iff.mpr (Or.inl hgives)⟩
  placed := by
    refine List.forall_mem_append.mpr ⟨fun offer hoffer ↦ ?_, List.forall_mem_singleton.mpr ?_⟩
    · exact (hoffered.placed offer hoffer).concat _
    · exact hplaced.concat _

/-- The run goes on after a declaration that is passed over. -/
theorem Progress.pass (hprogress : Progress handled state offers) {outer : Nat}
    (hparent : declaration.parent = some outer) (hunknown : state.scope.resolve? outer = none) :
    Progress (handled ++ [declaration]) state.orphaned offers where
  toOffered := by
    refine hprogress.toOffered.pass htop hparent fun id hgives ↦ ?_
    cases hunknown.symm.trans ((hprogress.ids outer id).mpr hgives)
  notFatal := hprogress.notFatal
  ids := hprogress.ids
  stored := hprogress.stored
  conflicts := hprogress.conflicts
  orphans := by
    rw [List.length_append, List.length_singleton, ← hprogress.orphans]
    exact Nat.add_right_comm _ 1 _

/-- The run goes on after an accepted declaration, whose tag has the id from then on. -/
theorem Progress.accept (hprogress : Progress handled state offers) {parentId : Option Int}
    (hplaced : IsPlaced offers declaration.parent parentId) (id : Int) :
    Progress (handled ++ [declaration]) (state.accepted declaration.tag id)
      (offers ++ [⟨parentId, declaration, .ok id⟩]) where
  toOffered := hprogress.toOffered.offer htop hplaced (.ok id)
  notFatal := List.forall_mem_append.mpr ⟨hprogress.notFatal, List.forall_mem_singleton.mpr rfl⟩
  ids := by
    intro tag other
    rw [gives_concat_iff, ← hprogress.ids tag other, PersistState.accepted,
      IdentityScope.resolve?_record]
    by_cases htag : tag = declaration.tag
    · subst htag
      have hunknown : state.scope.resolve? declaration.tag ≠ some other := by
        intro hfound
        obtain ⟨offer, hoffer, hsame, -⟩ := (hprogress.ids _ _).mp hfound
        exact hprogress.tag_ne htop hoffer hsame
      simp [hunknown]
    · simp [htag, Ne.symm htag]
  stored := by
    rw [List.countP_append, ← hprogress.stored]
    rfl
  conflicts := by
    rw [List.countP_append, ← hprogress.conflicts]
    rfl
  orphans := by
    rw [List.length_append, List.length_append, ← hprogress.orphans]
    rfl

/-- The run goes on after a conflict. -/
theorem Progress.conflict (hprogress : Progress handled state offers) {parentId : Option Int}
    (hplaced : IsPlaced offers declaration.parent parentId) {failure : GraphError}
    (hconflict : failure.isConflict = true) :
    Progress (handled ++ [declaration]) state.conflicted
      (offers ++ [⟨parentId, declaration, .error failure⟩]) where
  toOffered := hprogress.toOffered.offer htop hplaced (.error failure)
  notFatal := by
    refine List.forall_mem_append.mpr ⟨hprogress.notFatal, List.forall_mem_singleton.mpr ?_⟩
    simp [Offer.isFatal, hconflict]
  ids := by
    intro tag id
    rw [gives_concat_iff, ← hprogress.ids tag id]
    simp [PersistState.conflicted]
  stored := by
    rw [List.countP_append, ← hprogress.stored]
    rfl
  conflicts := by
    rw [List.countP_append, ← hprogress.conflicts, List.countP_singleton]
    simp [Offer.isConflict, hconflict, PersistState.conflicted]
  orphans := by
    rw [List.length_append, List.length_append, ← hprogress.orphans]
    rfl

end Turn

section Sink

variable {σ : Type} {sink : SymbolSink σ} {parentId : Option Int} {declaration : Declaration}
  {state : PersistState} {world next : σ}

theorem persistBelow_of_ok {id : Int}
    (hanswer : sink parentId declaration world = (.ok id, next)) :
    persistBelow sink parentId declaration state world =
      (.ok (state.accepted declaration.tag id), next) := by
  rw [persistBelow, hanswer]

theorem persistBelow_of_conflict {failure : GraphError}
    (hanswer : sink parentId declaration world = (.error failure, next))
    (hconflict : failure.isConflict = true) :
    persistBelow sink parentId declaration state world = (.ok state.conflicted, next) := by
  rw [persistBelow, hanswer]
  cases failure with
  | storageConflict => rfl
  | _ => cases hconflict

theorem persistBelow_of_fatal {failure : GraphError}
    (hanswer : sink parentId declaration world = (.error failure, next))
    (hfatal : failure.isConflict = false) :
    persistBelow sink parentId declaration state world = (.error failure, next) := by
  rw [persistBelow, hanswer]
  cases failure with
  | storageConflict => cases hfatal
  | _ => rfl

variable {handled rest : List Declaration} {offers : List Offer}

/-- The next declaration keeps the run going, or it is offered and ends it. -/
theorem Progress.turn (htop : IsTopDown (handled ++ declaration :: rest))
    (hprogress : Progress handled state offers) (sink : SymbolSink σ) (world : σ) :
    (∃ after later more,
      persistOne sink.noting declaration state (world, offers) = (.ok after, later, more) ∧
        Progress (handled ++ [declaration]) after more) ∨
    ∃ failure later parentId,
      persistOne sink.noting declaration state (world, offers) =
        (.error failure, later, offers ++ [⟨parentId, declaration, .error failure⟩]) ∧
      failure.isConflict = false ∧
      Offered (handled ++ [declaration])
        (offers ++ [⟨parentId, declaration, .error failure⟩]) := by
  rw [persistOne_eq]
  cases hplace : state.scope.place? declaration.parent with
  | none =>
    obtain ⟨outer, hparent, hunknown⟩ := IdentityScope.exists_unknown_of_place? hplace
    exact Or.inl ⟨_, _, _, rfl, hprogress.pass htop hparent hunknown⟩
  | some parentId =>
    have hplaced := hprogress.isPlaced hplace
    have hnoted : sink.noting parentId declaration (world, offers) =
        ((sink parentId declaration world).1, (sink parentId declaration world).2,
          offers ++ [⟨parentId, declaration, (sink parentId declaration world).1⟩]) := rfl
    cases hanswer : (sink parentId declaration world).1 with
    | ok id =>
      rw [hanswer] at hnoted
      exact Or.inl ⟨_, _, _, persistBelow_of_ok hnoted, hprogress.accept htop hplaced id⟩
    | error failure =>
      rw [hanswer] at hnoted
      cases hkind : failure.isConflict with
      | true =>
        exact Or.inl ⟨_, _, _, persistBelow_of_conflict hnoted hkind,
          hprogress.conflict htop hplaced hkind⟩
      | false =>
        exact Or.inr ⟨_, _, _, persistBelow_of_fatal hnoted hkind, hkind,
          hprogress.toOffered.offer htop hplaced (.error failure)⟩

end Sink

/-! ### All ancestors -/

section Ancestors

variable {declared handled rest : List Declaration} {offers : List Offer}

/-- What was handled was offered just where all ancestors were accepted: the parent was accepted, so
it was offered itself. -/
theorem Offered.isParentClosed (htop : IsTopDown (handled ++ rest))
    (hoffered : Offered handled offers) : IsParentClosed (handled ++ rest) handled offers where
  inOrder := hoffered.inOrder
  once := by
    have htags := htop.tags.sublist ((List.sublist_append_left handled rest).map _)
    have honce := htags.sublist (hoffered.inOrder.map _)
    rwa [List.map_map] at honce
  offered_iff := by
    intro declaration hdeclaration
    rw [hoffered.offered_iff declaration hdeclaration]
    refine ⟨fun hparent tag hancestor ↦ ?_, fun hall tag hparent ↦ hall tag (.parent hparent)⟩
    induction hancestor with
    | parent hparentTag => exact hparent _ hparentTag
    | @outer declaration middle tag hmiddle hmiddleTag _ ih =>
      obtain ⟨id, offer, hoffer, htag, -⟩ := hparent middle.tag hmiddleTag
      have hmem := hoffered.inOrder.subset (List.mem_map_of_mem hoffer)
      have hsame := htop.eq_of_tag_eq (List.mem_append_left rest hmem) hmiddle htag
      rw [hsame] at hmem
      have hmiddleOffered : middle ∈ offers.map (·.declaration) :=
        List.mem_map.mpr ⟨offer, hoffer, hsame⟩
      exact ih hmem ((hoffered.offered_iff middle hmem).mp hmiddleOffered)
  placed := hoffered.placed

/-- What was offered and got no id conflicted. -/
theorem conflicts_of_not_gives (hnotFatal : ∀ offer ∈ offers, offer.isFatal = false)
    {declaration : Declaration} (hmem : declaration ∈ offers.map (·.declaration))
    (hnone : ∀ id, ¬Gives offers declaration.tag id) : Conflicts offers declaration.tag := by
  obtain ⟨offer, hoffer, rfl⟩ := List.mem_map.mp hmem
  refine ⟨offer, hoffer, rfl, ?_⟩
  have hanswer := hnotFatal offer hoffer
  unfold Offer.isFatal at hanswer
  unfold Offer.isConflict
  cases hcase : offer.answer with
  | ok id => exact absurd ⟨offer, hoffer, rfl, hcase⟩ (hnone id)
  | error failure => simpa [hcase] using hanswer

/-- Above what was not offered there is a conflict, or something that is not declared. -/
theorem exists_unmet_ancestor (htop : IsTopDown declared) (hoffered : Offered declared offers)
    (hnotFatal : ∀ offer ∈ offers, offer.isFatal = false) {declaration : Declaration}
    (hdeclaration : declaration ∈ declared)
    (hnot : declaration ∉ offers.map (·.declaration)) :
    ∃ tag, IsAncestor declared declaration tag ∧
      (Conflicts offers tag ∨ ∀ other ∈ declared, other.tag ≠ tag) := by
  obtain ⟨before, after, hsplit⟩ := List.append_of_mem hdeclaration
  -- a parent stands before what is inside it, so there are fewer declarations before it
  induction hlength : before.length using Nat.strongRecOn generalizing declaration before after with
  | ind length ih =>
    rw [hoffered.offered_iff declaration hdeclaration] at hnot
    push Not at hnot
    obtain ⟨tag, hparent, hnone⟩ := hnot
    by_cases hdeclared : ∃ middle ∈ declared, middle.tag = tag
    · obtain ⟨middle, hmiddle, rfl⟩ := hdeclared
      by_cases hmem : middle ∈ offers.map (·.declaration)
      · exact ⟨middle.tag, .parent hparent, Or.inl (conflicts_of_not_gives hnotFatal hmem hnone)⟩
      · subst hsplit
        obtain ⟨earlier, between, rfl⟩ := List.append_of_mem (htop.mem_before hmiddle hparent)
        have hshorter : earlier.length < length := by
          rw [← hlength, List.length_append, List.length_cons]
          omega
        obtain ⟨outer, hancestor, hunmet⟩ := ih _ hshorter hmiddle hmem earlier
          (between ++ declaration :: after) (by simp) rfl
        exact ⟨outer, .outer hmiddle hparent hancestor, hunmet⟩
    · exact ⟨tag, .parent hparent, Or.inr fun other hother hsame ↦
        hdeclared ⟨other, hother, hsame⟩⟩

/-- Of distinct rows, those that are not in a part and those of the part are all. -/
theorem countP_not_mem_add_length {α : Type} [DecidableEq α] {part whole : List α}
    (hpart : part.Sublist whole) (hwhole : whole.Nodup) :
    (whole.countP fun row ↦ row ∉ part) + part.length = whole.length := by
  have hperm : (whole.filter fun row ↦ row ∈ part).Perm part := by
    refine (List.perm_ext_iff_of_nodup (hwhole.filter _) (hwhole.sublist hpart)).mpr fun row ↦ ?_
    rw [List.mem_filter, decide_eq_true_iff]
    exact and_iff_right_of_imp fun hmem ↦ hpart.subset hmem
  have hmembers : (whole.countP fun row ↦ row ∈ part) = part.length :=
    List.countP_eq_length_filter.trans hperm.length_eq
  have hall : whole.length = (whole.countP fun row ↦ row ∈ part) +
      whole.countP fun row ↦ row ∉ part := by
    rw [List.length_eq_countP_add_countP fun row ↦ decide (row ∈ part)]
    simp
  omega

/-- When all declarations were handled, the run is complete. -/
theorem Progress.isComplete (htop : IsTopDown declared) {last : PersistState}
    (hprogress : Progress declared last offers) : IsComplete declared last offers := by
  have htop' : IsTopDown (declared ++ []) := by rwa [List.append_nil]
  have hclosed := hprogress.toOffered.isParentClosed htop'
  rw [List.append_nil] at hclosed
  have hskipped := countP_not_mem_add_length hprogress.inOrder (List.Nodup.of_map _ htop.tags)
  rw [List.length_map, ← hprogress.orphans] at hskipped
  have hanswers := length_eq_of_notFatal hprogress.notFatal
  have hstored := hprogress.stored
  have hconflicts := hprogress.conflicts
  have horphans := hprogress.orphans
  refine ⟨hclosed, hprogress.notFatal, hprogress.ids, hstored, hconflicts,
    (Nat.add_right_cancel hskipped).symm, by omega, fun declaration hdeclaration ↦
      ⟨exists_unmet_ancestor htop hprogress.toOffered hprogress.notFatal hdeclaration, ?_⟩⟩
  rintro ⟨tag, hancestor, hunmet⟩ hmem
  obtain ⟨id, offer, hoffer, htag, hanswer⟩ :=
    (hclosed.offered_iff declaration hdeclaration).mp hmem tag hancestor
  rcases hunmet with ⟨other, hother, hotherTag, hconflict⟩ | hundeclared
  · obtain rfl := List.inj_on_of_nodup_map hclosed.once hoffer hother (htag.trans hotherTag.symm)
    simp [Offer.isConflict, hanswer] at hconflict
  · exact hundeclared _ (hclosed.inOrder.subset (List.mem_map_of_mem hoffer)) htag

end Ancestors

/-! ### The run -/

variable {σ : Type}

/-- Offering the rest of the declarations ends the run in one of the two ways. -/
theorem ended_persistFrom (sink : SymbolSink σ) {handled rest : List Declaration}
    {state : PersistState} {offers : List Offer} (htop : IsTopDown (handled ++ rest))
    (hprogress : Progress handled state offers) (world : σ) :
    let run := persistFrom sink.noting rest state (world, offers)
    Ended (handled ++ rest) run.1 run.2.2 := by
  induction rest generalizing handled state offers world with
  | nil =>
    rw [List.append_nil] at htop ⊢
    exact .complete (hprogress.isComplete htop)
  | cons declaration rest ih =>
    have happend : handled ++ declaration :: rest = handled ++ [declaration] ++ rest :=
      List.append_cons ..
    rw [persistFrom]
    rcases hprogress.turn htop sink world with ⟨after, later, more, hone, hnext⟩ |
      ⟨failure, later, parentId, hone, hfatal, hoffered⟩
    · rw [hone, happend]
      exact ih (happend ▸ htop) hnext later
    · rw [hone]
      refine .cutShort rfl hfatal hprogress.notFatal ?_
      rw [happend]
      exact hoffered.isParentClosed (happend ▸ htop)

/-! ### Noting -/

theorem persistBelow_noting (sink : SymbolSink σ) (parentId : Option Int)
    (declaration : Declaration) (state : PersistState) (world : σ) (offers : List Offer) :
    let run := persistBelow sink.noting parentId declaration state (world, offers)
    persistBelow sink parentId declaration state world = (run.1, run.2.1) := by
  unfold persistBelow SymbolSink.noting
  rcases sink parentId declaration world with ⟨answer, next⟩
  cases answer with
  | ok id => rfl
  | error failure => cases failure <;> rfl

theorem persistOne_noting (sink : SymbolSink σ) (declaration : Declaration) (state : PersistState)
    (world : σ) (offers : List Offer) :
    let run := persistOne sink.noting declaration state (world, offers)
    persistOne sink declaration state world = (run.1, run.2.1) := by
  rw [persistOne_eq, persistOne_eq]
  cases state.scope.place? declaration.parent with
  | none => rfl
  | some parentId => exact persistBelow_noting sink parentId declaration state world offers

/-- Noting changes neither the answer of a run nor what it leaves. -/
theorem persistFrom_noting (sink : SymbolSink σ) (declared : List Declaration)
    (state : PersistState) (world : σ) (offers : List Offer) :
    let run := persistFrom sink.noting declared state (world, offers)
    persistFrom sink declared state world = (run.1, run.2.1) := by
  induction declared generalizing state world offers with
  | nil => rfl
  | cons declaration rest ih =>
    rw [persistFrom, persistFrom, persistOne_noting sink declaration state world offers]
    rcases persistOne sink.noting declaration state (world, offers) with ⟨answer, later, more⟩
    cases answer with
    | ok next => exact ih next later more
    | error failure => rfl

end Identity

open Identity

/-- Whatever a sink answers, declarations with distinct tags of which parents come first are offered
in order and once each, just those all of whose ancestors were accepted, each below the id that its
parent got, up to the first fatal answer, which is returned. If there is none, the ids are those of
the accepted declarations, and the passed over ones are those below a conflict or below what is not
declared. -/
theorem ended_persist {σ : Type} (sink : SymbolSink σ) {declared : List Declaration}
    (htop : IsTopDown declared) (world : σ) : ∃ offers,
      persist sink.noting declared (world, []) =
        ((persist sink declared world).1, (persist sink declared world).2, offers) ∧
      Ended declared (persist sink declared world).1 offers := by
  have hnoted := persistFrom_noting sink declared .start world []
  have hended := @ended_persistFrom σ sink [] declared .start [] htop progress_start world
  refine ⟨(persist sink.noting declared (world, [])).2.2, ?_, ?_⟩
  · rw [persist, persist, hnoted]
  · rw [persist, hnoted]
    exact hended

/-- A sink that gives the next id, but has a place of another kind for the name. -/
def sinkWithout (taken : String) : SymbolSink Int :=
  fun _ declaration next ↦
    if declaration.name = taken then
      (.error (.storageConflict "a.py" taken "variable" "class"), next)
    else (.ok next, next + 1)

/-- A module with a class, a method in it and a function. -/
def moduleOfThree : List Declaration :=
  [⟨0, none, .module, "a", none, ⟨1, 5, 0, 50⟩⟩, ⟨1, some 0, .classType, "C", none, ⟨1, 3, 0, 30⟩⟩,
    ⟨2, some 1, .method, "f", some "(self)", ⟨2, 3, 9, 30⟩⟩,
    ⟨3, some 0, .function, "f", some "()", ⟨4, 5, 31, 50⟩⟩]

/-- The class conflicts, so its method is passed over, and the function is offered. -/
theorem ended_moduleOfThree : ∃ offers,
    (offers.map fun offer ↦ (offer.parentId, offer.declaration.tag)) =
      [(none, 0), (some 7, 1), (some 7, 3)] ∧
    Ended moduleOfThree (.ok ⟨⟨[(3, 8), (0, 7)]⟩, ⟨2, 1, 1⟩⟩) offers := by
  obtain ⟨offers, hnoted, hended⟩ := @ended_persist Int (sinkWithout "C") moduleOfThree
    ⟨by decide, by decide, by decide⟩ 7
  have hoffers : (persist (sinkWithout "C").noting moduleOfThree (7, [])).2.2 = offers :=
    congrArg (·.2.2) hnoted
  refine ⟨offers, ?_, hended⟩
  rw [← hoffers]
  rfl

end SymbolGraph
