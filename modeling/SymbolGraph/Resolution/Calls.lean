import SymbolGraph.Resolution.FileView
import SymbolGraph.Resolution.Pages
import SymbolGraph.Text.Split

/-!
# Resolving calls

A call is resolved by the shape of its callee. A bare name follows lexical scope and then the
imports of the file; a name after `self`, `cls`, `this` or `super` is looked up in the class around
the call; any other dotted name is looked up in what its qualifier was imported from, and then in a
declaration of the same file that is called like the last part of the qualifier.

`callTarget` is that rule over two look-ups, the view of a file and the symbol of an id. Resolving a
project (`Resolution.calls`) goes through the open calls page by page in id order and remembers what
it looked up: symbols for the whole run, and the views of a bounded number of files.
-/

set_option autoImplicit false

namespace SymbolGraph.Resolution

/-- Receivers that stand for the object or the class around the call. -/
def selfReceivers : List String := ["self", "cls", "this", "super"]

/-- What a member of the receiver means inside a symbol. -/
def selfTarget (file : FileView) (sourceId : Int) (member : String) : Option Int :=
  if member.toList.contains '.' then none
  else
    let declared := (file.enclosingClass sourceId).bind fun owner ↦ file.childNamed owner.id member
    (declared.or (file.bestNamed member)).map (·.id)

/-- What a bare name means inside a symbol. -/
def bareTarget (file : FileView) (sourceId : Int) (name : String) : Option Int :=
  ((file.scopedNamed name sourceId).map (·.id)).or (file.resolvedImport name)

/-- The text before the first dot, or the whole text. -/
def firstPart (text : String) : String :=
  match Text.splitFirst? '.' text with
  | some (head, _) => head
  | none => text

/-- The text after the last dot, or the whole text. -/
def lastPart (text : String) : String :=
  match Text.splitLast? '.' text with
  | some (_, last) => last
  | none => text

/-- The symbol that a qualifier was imported as, or else its first part. -/
def importedQualifier (file : FileView) (qualifier : String) : Option Int :=
  (file.resolvedImport qualifier).or (file.resolvedImport (firstPart qualifier))

/-- A member declared in the file under a symbol called like the last part of the qualifier. -/
def ownedTarget (file : FileView) (qualifier member : String) : Option Int :=
  ((file.symbols.filter fun symbol ↦ symbol.name == lastPart qualifier).findSome? fun owner ↦
    file.childNamed owner.id member).map (·.id)

/-- How a callee is written. -/
inductive CalleeShape where
  /-- A name without a dot. -/
  | bare (name : String)
  /-- A member of the object or class around the call. -/
  | onSelf (member : String)
  /-- A member of something with a name of its own. -/
  | dotted (qualifier member : String)
  deriving DecidableEq, Repr

/-- The shape of a callee. -/
def calleeShape (callee : String) : CalleeShape :=
  match Text.splitFirst? '.' callee, Text.splitLast? '.' callee with
  | some (receiver, rest), some (qualifier, member) =>
    if selfReceivers.contains receiver then .onSelf rest else .dotted qualifier member
  | _, _ => .bare callee

/-- The look-ups that resolving a call needs, and what they remember. -/
structure Lookup (σ : Type) where
  file : String → σ → FileView × σ
  symbol : Int → σ → Option Symbol × σ

/-- A member declared under an imported symbol, or else anywhere in that symbol's file. -/
def memberTarget {σ : Type} (lookup : Lookup σ) (targetId : Int) (member : String) (memory : σ) :
    Option Int × σ :=
  match lookup.symbol targetId memory with
  | (none, later) => (none, later)
  | (some target, later) =>
    let (file, last) := lookup.file target.filePath later
    (((file.childNamed target.id member).or (file.bestNamed member)).map (·.id), last)

/-- What a call reaches. -/
def callTarget {σ : Type} (lookup : Lookup σ) (call : Call) (memory : σ) : Option Int × σ :=
  let (file, later) := lookup.file call.filePath memory
  match calleeShape call.callee with
  | .bare name => (bareTarget file call.callerId name, later)
  | .onSelf member => (selfTarget file call.callerId member, later)
  | .dotted qualifier member =>
    match importedQualifier file qualifier with
    | none => (ownedTarget file qualifier member, later)
    | some targetId =>
      match memberTarget lookup targetId member later with
      | (some found, last) => (some found, last)
      | (none, last) => (ownedTarget file qualifier member, last)

/-- Look-ups that go to the store each time. -/
def directLookup (store : Store) (projectId : Int) : Lookup Unit where
  file := fun filePath memory ↦ (store.fileView projectId filePath, memory)
  symbol := fun id memory ↦ (store.symbol? id, memory)

/-- What was looked up during a run. -/
structure Cache where
  files : List (String × FileView)
  symbols : List (Int × Option Symbol)

/-- How many files are remembered before all are forgotten. -/
def fileCacheLimit : Nat := 512

/-- Look-ups that remember their answers. -/
def cachedLookup (store : Store) (projectId : Int) : Lookup Cache where
  file := fun filePath cache ↦
    match cache.files.lookup filePath with
    | some file => (file, cache)
    | none =>
      let file := store.fileView projectId filePath
      let kept := if fileCacheLimit ≤ cache.files.length then [] else cache.files
      (file, { cache with files := (filePath, file) :: kept })
  symbol := fun id cache ↦
    match cache.symbols.lookup id with
    | some symbol => (symbol, cache)
    | none =>
      let symbol := store.symbol? id
      (symbol, { cache with symbols := (id, symbol) :: cache.symbols })

/-- Resolves the open calls of a project, `size` of them at a time. Imports are resolved first,
because calls follow them. -/
def calls (projectId : Int) (size : Nat) : Store.Change ResolutionStats :=
  settleAll .calls (fun store ↦ callTarget (cachedLookup store projectId)) projectId size ⟨[], []⟩

end SymbolGraph.Resolution
