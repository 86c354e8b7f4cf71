import SymbolGraph.Error
import SymbolGraph.Extraction

/-!
# From tags to stored ids

The tags of one file's declarations are exchanged for the ids under which a sink accepts them.
`IdentityScope` remembers the ids given so far. `persist` offers the declarations in order, each
with the id of the symbol around it: a declaration whose parent was not accepted is skipped as an
orphan, one whose place is held by another kind is counted as a conflict, and any other refusal
ends the run. The sink is arbitrary: it may answer by anything it has seen.
-/

set_option autoImplicit false

namespace SymbolGraph

/-- The ids given to the tags of one file. -/
structure IdentityScope where
  ids : List (Nat × Int)
  deriving DecidableEq, Repr

/-- What the parent of a declaration is known as. -/
inductive ParentLink where
  /-- The declaration has no parent. -/
  | root
  | resolved (id : Int)
  | missing (tag : Nat)
  deriving DecidableEq, Repr

namespace IdentityScope

/-- The scope in which no tag has an id. -/
def empty : IdentityScope where
  ids := []

/-- The id of a tag. -/
def resolve? (scope : IdentityScope) (tag : Nat) : Option Int :=
  scope.ids.lookup tag

/-- Gives a tag its id, in place of any earlier one. -/
def record (scope : IdentityScope) (tag : Nat) (id : Int) : IdentityScope where
  ids := (tag, id) :: scope.ids.filter fun entry ↦ entry.1 ≠ tag

/-- The number of tags with an id. -/
def size (scope : IdentityScope) : Nat :=
  scope.ids.length

/-- What a parent given by its tag is known as. -/
def parentLink (scope : IdentityScope) (parent : Option Nat) : ParentLink :=
  match parent with
  | none => .root
  | some tag =>
    match scope.resolve? tag with
    | some id => .resolved id
    | none => .missing tag

end IdentityScope

/-- Where declarations are offered: given the parent's id, the answer is an id or a refusal. -/
abbrev SymbolSink (σ : Type) := Option Int → Declaration → σ → Except GraphError Int × σ

/-- What became of the offered declarations. -/
structure PersistStats where
  stored : Nat
  orphansSkipped : Nat
  conflicts : Nat
  deriving DecidableEq, Repr

/-- Ids and counts so far. -/
structure PersistState where
  scope : IdentityScope
  stats : PersistStats
  deriving DecidableEq, Repr

namespace PersistState

/-- Nothing has been offered. -/
def start : PersistState where
  scope := .empty
  stats := ⟨0, 0, 0⟩

/-- The declaration was accepted under an id. -/
def accepted (state : PersistState) (tag : Nat) (id : Int) : PersistState where
  scope := state.scope.record tag id
  stats := { state.stats with stored := state.stats.stored + 1 }

/-- The declaration was not offered because its parent has no id. -/
def orphaned (state : PersistState) : PersistState :=
  { state with stats := { state.stats with orphansSkipped := state.stats.orphansSkipped + 1 } }

/-- The declaration's place is held by another kind. -/
def conflicted (state : PersistState) : PersistState :=
  { state with stats := { state.stats with conflicts := state.stats.conflicts + 1 } }

end PersistState

/-- Offers one declaration below a parent that is already known. -/
def persistBelow {σ : Type} (sink : SymbolSink σ) (parentId : Option Int)
    (declaration : Declaration) (state : PersistState) (world : σ) :
    Except GraphError PersistState × σ :=
  match sink parentId declaration world with
  | (.ok id, next) => (.ok (state.accepted declaration.tag id), next)
  | (.error (.storageConflict ..), next) => (.ok state.conflicted, next)
  | (.error failure, next) => (.error failure, next)

/-- Offers one declaration, unless its parent has no id. -/
def persistOne {σ : Type} (sink : SymbolSink σ) (declaration : Declaration) (state : PersistState)
    (world : σ) : Except GraphError PersistState × σ :=
  match state.scope.parentLink declaration.parent with
  | .root => persistBelow sink none declaration state world
  | .resolved id => persistBelow sink (some id) declaration state world
  | .missing _ => (.ok state.orphaned, world)

/-- Offers the declarations in order, from a given state. -/
def persistFrom {σ : Type} (sink : SymbolSink σ) :
    List Declaration → PersistState → σ → Except GraphError PersistState × σ
  | [], state, world => (.ok state, world)
  | declaration :: rest, state, world =>
    match persistOne sink declaration state world with
    | (.ok next, later) => persistFrom sink rest next later
    | (.error failure, later) => (.error failure, later)

/-- Offers the declarations of a file in order, and gives the ids they got and the counts. -/
def persist {σ : Type} (sink : SymbolSink σ) (declarations : List Declaration) (world : σ) :
    Except GraphError PersistState × σ :=
  persistFrom sink declarations .start world

end SymbolGraph
