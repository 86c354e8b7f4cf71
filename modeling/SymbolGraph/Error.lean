/-!
# What can go wrong

`GraphError` lists the causes, `GraphError.message` words them for people, and
`GraphError.isRecoverable` tells the errors that concern one file or one record, after which a run
carries on, from those that end it.
-/

set_option autoImplicit false

namespace SymbolGraph

/-- Why an operation failed. -/
inductive GraphError where
  /-- The text of a file is not a program of its language. -/
  | syntaxError (path : String)
  /-- A file cannot be analysed for another reason. -/
  | parse (path reason : String)
  /-- No symbol has the name asked for. -/
  | notFound (symbol : String)
  /-- The place of a symbol is held by a symbol of another kind. -/
  | storageConflict (filePath name existingKind incomingKind : String)
  /-- No project is stored for a repository. -/
  | projectNotIndexed (url : String)
  /-- A name pattern or a path pattern cannot be read. -/
  | invalidPattern (pattern reason : String)
  /-- A stored id would name a row that does not exist. -/
  | brokenReference
  /-- Any other failure. -/
  | other (reason : String)
  deriving DecidableEq, Repr

namespace GraphError

/-- The error of a file whose path belongs to no supported language. -/
def unsupported (path : String) : GraphError :=
  .parse path "no extractor for this file type"

/-- The wording of an error. -/
def message : GraphError → String
  | .syntaxError path => "parse error in " ++ path ++ ": syntax error"
  | .parse path reason => "parse error in " ++ path ++ ": " ++ reason
  | .notFound symbol => "symbol not found: " ++ symbol
  | .storageConflict filePath name existingKind incomingKind =>
    "storage conflict for " ++ filePath ++ ":" ++ name ++ ": existing " ++ existingKind ++
      ", incoming " ++ incomingKind
  | .projectNotIndexed url => "project not indexed: " ++ url
  | .invalidPattern pattern reason => "invalid pattern " ++ pattern ++ ": " ++ reason
  | .brokenReference => "sqlite error: FOREIGN KEY constraint failed"
  | .other reason => reason

/-- The error concerns a single file or record, and the run carries on past it. -/
def isRecoverable : GraphError → Bool
  | .syntaxError _ => true
  | .parse _ _ => true
  | .storageConflict _ _ _ _ => true
  | _ => false

end GraphError

end SymbolGraph
