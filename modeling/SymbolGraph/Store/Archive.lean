import SymbolGraph.Store.Basic
import SymbolGraph.Store.Version

/-!
# The store as a text

A store is kept in a file of lines: the version of the layout, and then one line for each row, made
of fields with tabs between them. A backslash begins an escape, for a tab, a line break or itself.
An empty file holds the empty store.
-/

set_option autoImplicit false

namespace SymbolGraph.Store

/-- A row of any table. -/
inductive Row where
  | project (row : Project)
  | symbol (row : Symbol)
  | imported (row : Import)
  | call (row : Call)
  deriving DecidableEq, Repr

namespace Archive

/-! ### Fields -/

/-- How a character is written in a field. -/
def escapeChar (character : Char) : List Char :=
  if character = '\\' then ['\\', '\\']
  else if character = '\t' then ['\\', 't']
  else if character = '\n' then ['\\', 'n']
  else if character = '\r' then ['\\', 'r']
  else [character]

/-- A text as a field. -/
def escape (text : List Char) : List Char :=
  text.flatMap escapeChar

/-- The text of a field. -/
def unescape : List Char → List Char
  | '\\' :: 't' :: rest => '\t' :: unescape rest
  | '\\' :: 'n' :: rest => '\n' :: unescape rest
  | '\\' :: 'r' :: rest => '\r' :: unescape rest
  | '\\' :: character :: rest => character :: unescape rest
  | character :: rest => character :: unescape rest
  | [] => []

/-- A text as a field. -/
def ofText (text : String) : String :=
  String.ofList (escape text.toList)

/-- The text of a field. -/
def text (field : String) : String :=
  String.ofList (unescape field.toList)

/-- An optional text as a field, empty when it is absent. -/
def ofText? : Option String → String
  | none => ""
  | some text => "=" ++ ofText text

/-- The optional text of a field. -/
def text? (field : String) : Option String :=
  match field.toList with
  | '=' :: rest => some (String.ofList (unescape rest))
  | _ => none

/-- An optional number as a field, empty when it is absent. -/
def ofNumber? : Option Int → String
  | none => ""
  | some number => toString number

/-- The number of a field. -/
def number? (field : String) : Option Int :=
  Text.signed? 64 field.toList

/-- A truth value as a field. -/
def ofFlag : Bool → String
  | true => "1"
  | false => "0"

/-- The truth value of a field. -/
def flag? (field : String) : Option Bool :=
  if field = "1" then some true else if field = "0" then some false else none

/-! ### Rows -/

/-- The fields of a span. -/
def ofSpan (span : Span) : List String :=
  [toString span.startLine, toString span.endLine, toString span.startByte,
   toString span.endByte]

/-- The fields of a row, the first of which names its table. -/
def ofRow : Row → List String
  | .project row => ["project", toString row.id, ofText row.name, ofText row.url]
  | .symbol row =>
    ["symbol", toString row.id, toString row.projectId, ofNumber? row.parentId,
     ofText row.filePath, ofText row.name, row.kind.text, ofText? row.signature,
     toString row.parentKey] ++ ofSpan row.span
  | .imported row =>
    ["import", toString row.id, toString row.projectId, ofText row.filePath, ofText row.source,
     ofText row.name, ofText? row.binding, toString row.line, ofNumber? row.target,
     ofFlag row.isResolved]
  | .call row =>
    ["call", toString row.id, toString row.projectId, ofText row.filePath,
     toString row.callerId, ofText row.callee, toString row.line, ofNumber? row.target]

/-- The row of some fields. -/
def row? : List String → Option Row
  | ["project", id, name, url] => do
    let id ← number? id
    some (.project { id, name := text name, url := text url })
  | ["symbol", id, projectId, parentId, filePath, name, kind, signature, parentKey, startLine,
     endLine, startByte, endByte] => do
    let id ← number? id
    let projectId ← number? projectId
    let kind ← SymbolKind.ofText? kind
    let parentKey ← number? parentKey
    let startLine ← number? startLine
    let endLine ← number? endLine
    let startByte ← number? startByte
    let endByte ← number? endByte
    some (.symbol
      { id, projectId, parentId := number? parentId, filePath := text filePath,
        name := text name, kind, signature := text? signature,
        span := { startLine, endLine, startByte, endByte }, parentKey })
  | ["import", id, projectId, filePath, source, name, binding, line, target, isResolved] => do
    let id ← number? id
    let projectId ← number? projectId
    let line ← number? line
    let isResolved ← flag? isResolved
    some (.imported
      { id, projectId, filePath := text filePath, source := text source, name := text name,
        binding := text? binding, line, target := number? target, isResolved })
  | ["call", id, projectId, filePath, callerId, callee, line, target] => do
    let id ← number? id
    let projectId ← number? projectId
    let callerId ← number? callerId
    let line ← number? line
    some (.call
      { id, projectId, filePath := text filePath, callerId, callee := text callee, line,
        target := number? target })
  | _ => none

/-- The rows of a store, table by table. -/
def rows (store : Store) : List Row :=
  store.projects.map .project ++ store.symbols.map .symbol ++ store.imports.map .imported ++
    store.calls.map .call

/-- The project of a row. -/
def project? : Row → Option Project
  | .project row => some row
  | _ => none

/-- The symbol of a row. -/
def symbol? : Row → Option Symbol
  | .symbol row => some row
  | _ => none

/-- The import of a row. -/
def imported? : Row → Option Import
  | .imported row => some row
  | _ => none

/-- The call of a row. -/
def call? : Row → Option Call
  | .call row => some row
  | _ => none

/-- The store of some rows. -/
def ofRows (rows : List Row) : Store where
  projects := rows.filterMap project?
  symbols := rows.filterMap symbol?
  imports := rows.filterMap imported?
  calls := rows.filterMap call?

end Archive

/-! ### Files -/

/-- The text that a store is kept as. -/
def encode (store : Store) : String :=
  let version := ["version", toString supportedVersion]
  String.join ((version :: (Archive.rows store).map Archive.ofRow).map fun fields ↦
    Text.join "\t" fields ++ "\n")

/-- The rows of some lines, each given as its fields. -/
def decodeRows (lines : List (List String)) : Except GraphError (List Row) :=
  lines.mapM fun fields ↦
    match Archive.row? fields with
    | some row => .ok row
    | none => .error (.other "malformed row in the store")

/-- The store that a text keeps. A text in a newer layout is refused. -/
def decode (text : String) : Except GraphError Store :=
  match (Text.lines text.toList).map fun line ↦ Text.split '\t' (String.ofList line) with
  | [] => .ok .empty
  | ["version", version] :: lines => do
    checkVersion version
    let rows ← decodeRows lines
    pure (Archive.ofRows rows)
  | _ => .error (.other "file is not a store")

end SymbolGraph.Store
