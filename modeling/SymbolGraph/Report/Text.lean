import SymbolGraph.DeadCode
import SymbolGraph.Impact.Traversal
import SymbolGraph.Text.Lines
import SymbolGraph.Text.Words

/-!
# Reports as plain text

`Report.impactText` lists call sites one a line, indented by depth; a direct caller is followed by
the calling line itself where the file can still be read. `Report.deadCodeText` lists symbols with
their places.
-/

set_option autoImplicit false

namespace SymbolGraph.Report

/-- How many bytes of a calling line are shown. -/
def snippetBytes : Nat := 120

/-- A line of a file without the blanks around it, when anything is left. -/
def snippet? (content : String) (line : Int) : Option String :=
  match Text.contextLines content line 0 with
  | [] => none
  | (_, text) :: _ =>
    match Text.trim text.toList with
    | [] => none
    | shown => some (Text.truncate (String.ofList shown) snippetBytes)

/-- A number right-aligned in five columns. -/
def inFiveColumns (number : Int) : String :=
  let digits := toString number
  String.ofList (List.replicate (5 - digits.length) ' ') ++ digits

/-- The lines of one call site. -/
def entryText (read? : String → Option String) (entry : ImpactEntry) : String :=
  let indent := String.ofList (List.replicate (2 * entry.depth) ' ')
  let place := entry.caller.name ++ " (" ++ entry.filePath ++ ":" ++ toString entry.line ++ ")\n"
  if entry.isDirect then
    let shown := (read? entry.filePath).bind fun content ↦ snippet? content entry.line
    indent ++ "!! " ++ place ++
      match shown with
      | none => ""
      | some text => indent ++ "     " ++ inFiveColumns entry.line ++ " | " ++ text ++ "\n"
  else
    indent ++ "~ [" ++ toString entry.depth ++ "] " ++ place

/-- The text of an impact report; `read?` gives the content of a file of the repository. -/
def impactText (read? : String → Option String) (report : ImpactReport) : String :=
  let target := report.target
  let heading := "Impact of " ++ target.name ++ " (" ++ target.kind ++ ") at " ++
    target.filePath ++ ":" ++ toString target.startLine ++ "\n"
  let ambiguity := if report.ambiguousWith = 0 then "" else
    "  " ++ toString report.ambiguousWith ++
      " other symbol(s) share this name; pass --file to pick another\n"
  if report.entries.isEmpty then
    heading ++ ambiguity ++ "\nNo callers within depth " ++ toString report.maxDepth ++ ".\n"
  else
    heading ++ ambiguity ++ "\n" ++ String.join (report.entries.map (entryText read?)) ++
      "\n" ++ toString report.entries.length ++ " caller(s): " ++ toString report.direct ++
      " direct, " ++ toString report.ripple ++ " ripple\n" ++
      if report.truncated then "Traversal stopped early; results are incomplete.\n" else ""

/-- The line of an unused symbol. -/
def unusedLine (symbol : SymbolSummary) : String :=
  symbol.filePath ++ ":" ++ toString symbol.startLine ++ "  " ++ symbol.kind ++ " " ++
    symbol.name ++ "\n"

/-- The text of a dead-code report. -/
def deadCodeText (report : DeadCodeReport) : String :=
  if report.symbols.isEmpty then "No unused symbols found.\n"
  else
    String.join (report.symbols.map unusedLine) ++
      "\nShowing " ++ toString report.symbols.length ++ " of " ++ toString report.total ++
      " candidate(s)" ++ (if report.truncated then "; raise --limit to see more" else "") ++
      "\n" ++ DeadCode.caveat ++ "\n"

end SymbolGraph.Report
