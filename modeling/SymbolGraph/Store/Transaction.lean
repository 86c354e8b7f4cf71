import SymbolGraph.Store.Write

/-!
# Writing a file in one transaction

A `FileWriter` writes rows of one file, one after the other. What it does next may depend on every
answer so far, and a write that fails changes nothing and may be passed over. `Store.writeFile`
keeps all that a writer wrote when it ends with a value, and nothing when it gives up.
-/

set_option autoImplicit false

namespace SymbolGraph

/-- What is written to the rows of one file. -/
inductive FileWriter (α : Type) where
  /-- Ends with a value, or gives up. -/
  | finish (result : Except GraphError α)
  | symbol (parentId : Option Int) (declaration : Declaration)
      (next : Except GraphError Int → FileWriter α)
  | imported (mention : ImportMention) (next : Except GraphError Unit → FileWriter α)
  | call (callerId : Int) (callee : String) (line : Int)
      (next : Except GraphError Bool → FileWriter α)

namespace Store

/-- The rows as a writer leaves them, and how it ends. -/
def runWriter {α : Type} (file : FileScope) :
    FileWriter α → Store → Except GraphError α × Store
  | .finish result, store => (result, store)
  | .symbol parentId declaration next, store =>
    let (answer, later) := attempt (upsertSymbol file parentId declaration) store
    runWriter file (next answer) later
  | .imported mention next, store =>
    let (answer, later) := attempt (upsertImport file mention) store
    runWriter file (next answer) later
  | .call callerId callee line next, store =>
    let (answer, later) := attempt (insertCall file callerId callee line) store
    runWriter file (next answer) later

/-- Writes to a file; nothing is kept when the writer gives up. -/
def writeFile {α : Type} (file : FileScope) (writer : FileWriter α) : Change α := fun store ↦
  match runWriter file writer store with
  | (.ok value, later) => .ok (value, later)
  | (.error failure, _) => .error failure

end Store

end SymbolGraph
