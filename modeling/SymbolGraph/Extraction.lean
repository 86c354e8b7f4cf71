import SymbolGraph.Text.Alphanumeric
import SymbolGraph.Text.Cursor
import SymbolGraph.Text.Lines
import SymbolGraph.Text.Split
import SymbolGraph.Text.Words

/-!
# What a source file declares and mentions

Reading one source file gives an `Extraction`: the symbols it declares, the names it imports and the
calls it makes, each with its place in the text. Symbols carry a tag that is unique within the file,
and refer to the symbol around them by its tag.

An extraction is built from the module of the file (`ofModule`) by adding declarations, whose tags
count up from zero (`declare`), calls of simple names (`addCall`) and imports (`addImports`).
-/

set_option autoImplicit false

namespace SymbolGraph

/-- The kinds of declared symbols. -/
inductive SymbolKind where
  | module
  | classType
  | function
  | method
  | variable
  deriving DecidableEq, Repr

namespace SymbolKind

/-- The name of a kind in reports. -/
def text : SymbolKind → String
  | .module => "module"
  | .classType => "class"
  | .function => "function"
  | .method => "method"
  | .variable => "variable"

/-- The kinds in the alphabetical order of their names. -/
def all : List SymbolKind :=
  [.classType, .function, .method, .module, .variable]

/-- The kind with a given name. -/
def ofText? (name : String) : Option SymbolKind :=
  all.find? fun kind ↦ kind.text = name

end SymbolKind

/-- The lines, counted from one, and the bytes, counted from zero with an exclusive end, that a
declaration covers. -/
structure Span where
  startLine : Int
  endLine : Int
  startByte : Int
  endByte : Int
  deriving DecidableEq, Repr

/-- A symbol declared in a file. -/
structure Declaration where
  /-- Unique within the file. -/
  tag : Nat
  /-- The tag of the symbol around it, absent for the file's module. -/
  parent : Option Nat
  kind : SymbolKind
  name : String
  /-- The parameters of a function, where they are known. -/
  signature : Option String
  span : Span
  deriving DecidableEq, Repr

/-- A name that a file imports. -/
structure ImportMention where
  /-- The module the name is imported from. -/
  source : String
  name : String
  /-- The local name the import is bound to when it is not `name`. -/
  binding : Option String
  line : Int
  deriving DecidableEq, Repr

/-- A call that a file makes. -/
structure CallMention where
  /-- The tag of the symbol around the call. -/
  caller : Nat
  /-- The called name as it is written, its parts separated by dots. -/
  callee : String
  line : Int
  deriving DecidableEq, Repr

/-- All that was read from one file. -/
structure Extraction where
  /-- In source order, so that a symbol follows the one around it. -/
  declarations : List Declaration
  imports : List ImportMention
  calls : List CallMention
  deriving Repr

/-! ### Parts of a declaration -/

/-- A name that is not empty. -/
structure Label where
  text : String
  text_ne : text ≠ ""
  deriving DecidableEq, Repr

/-- The label with a given text. -/
def Label.ofString? (text : String) : Option Label :=
  if text_ne : text ≠ "" then some ⟨text, text_ne⟩ else none

/-- A name taken from a module. -/
structure ImportedName where
  name : Label
  /-- The local name it is bound to when another one is given. -/
  binding : Option String
  deriving DecidableEq, Repr

/-- Where a declaration starts and where it stops. -/
structure Extent where
  start : Text.Place
  stop : Text.Place
  deriving DecidableEq, Repr

/-- The lines and the bytes of an extent. -/
def Extent.span (extent : Extent) : Span where
  startLine := extent.start.row + 1
  endLine := extent.stop.row + 1
  startByte := extent.start.byte
  endByte := extent.stop.byte

/-- The greatest size of a signature in bytes. -/
def signatureLimit : Nat := 200

/-- The signature for parameters as they are written: on one line, and of limited size. -/
def signature (written : String) : String :=
  Text.truncate (Text.squash written) signatureLimit

/-- A character of a name in a call. -/
def isCalleeCharacter (character : Char) : Bool :=
  Text.isAlphanumeric character || character = '_' || character = '$'

/-- The called name is made of names joined by dots. -/
def isSimpleCallee (callee : String) : Bool :=
  (Text.split '.' callee).all fun part ↦ part ≠ "" && part.toList.all isCalleeCharacter

/-! ### Building an extraction -/

namespace Extraction

/-- A file of which only the module is known yet. -/
def ofModule (name source : String) : Extraction where
  declarations := [{
    tag := 0
    parent := none
    kind := .module
    name := name
    signature := none
    span := ⟨1, Text.lineCount source.toList, 0, source.utf8ByteSize⟩ }]
  imports := []
  calls := []

/-- The tag of the next declaration. -/
def nextTag (extraction : Extraction) : Nat :=
  extraction.declarations.length

/-- Adds a declaration inside the symbol with the tag `parent`. -/
def declare (parent : Nat) (kind : SymbolKind) (name : Label) (signature : Option String)
    (extent : Extent) (extraction : Extraction) : Extraction :=
  { extraction with
    declarations := extraction.declarations ++
      [⟨extraction.nextTag, some parent, kind, name.text, signature, extent.span⟩] }

/-- Adds a call, when its callee is a simple name. -/
def addCall (caller : Nat) (callee : String) (line : Int) (extraction : Extraction) : Extraction :=
  if isSimpleCallee callee then
    { extraction with calls := extraction.calls ++ [⟨caller, callee, line⟩] }
  else extraction

/-- Adds names imported from a module. -/
def addImports (source : String) (names : List ImportedName) (line : Int)
    (extraction : Extraction) : Extraction :=
  { extraction with
    imports := extraction.imports ++
      names.map fun imported ↦ ⟨source, imported.name.text, imported.binding, line⟩ }

end Extraction

end SymbolGraph
