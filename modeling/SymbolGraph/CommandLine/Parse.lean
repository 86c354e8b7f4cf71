import SymbolGraph.CommandLine.Command
import SymbolGraph.CommandLine.Reading

/-!
# The command of a command line

`Command.parse` reads the arguments after the program's name: options, a subcommand, and the
options and operands of that subcommand. The log level may be given on either side of the
subcommand, and the later one counts. `help` is a subcommand too, and so a request.
-/

set_option autoImplicit false

namespace SymbolGraph.Command

/-- The option that asks for help. -/
def helpOption : OptionSpec :=
  { name := "help", kind := .help, letter := some 'h' }

/-- The option for the log level, which every level knows. -/
def logOption : OptionSpec :=
  { name := "log-level", kind := .single .text }

/-- The options that name the project, known to every subcommand. -/
def projectOptions : List OptionSpec :=
  [{ name := "repo", kind := .single .path }, { name := "db", kind := .single .path },
   { name := "url", kind := .single .text }]

/-- A subcommand with options of its own. -/
def level (options : List OptionSpec) (operands : List String) : CommandLevel where
  options := projectOptions ++ options ++ [logOption, helpOption]
  operands := operands
  subcommands := []

/-- The subcommand that stores a repository. -/
def ingestLevel : CommandLevel :=
  level
    [{ name := "name", kind := .single .text }, { name := "no-ignore", kind := .flag },
     { name := "workers", kind := .single .number }] []

/-- The subcommand that shows callers. -/
def impactLevel : CommandLevel :=
  level
    [{ name := "file", kind := .single .text }, { name := "depth", kind := .single .number },
     { name := "format", kind := .single (.choice (ImpactFormat.all.map (·.word))) }] ["SYMBOL"]

/-- The subcommand that lists uncalled symbols. -/
def unusedLevel : CommandLevel :=
  level
    [{ name := "limit", kind := .single .number },
     { name := "exclude", kind := .repeatable .text },
     { name := "test-pattern", kind := .repeatable .text },
     { name := "format", kind := .single (.choice (ListFormat.all.map (·.word))) }] []

/-- The subcommand that counts what is stored. -/
def overviewLevel : CommandLevel :=
  level [] []

/-- The project that the options name. -/
def projectOf (reading : Reading) : ProjectOptions where
  repository := (reading.value? "repo").getD "."
  storePath := reading.value? "db"
  url := reading.value? "url"

/-- What was asked by `ingest`. -/
def ingestOf (reading : Reading) : Request :=
  .ingest
    { name := reading.value? "name", noIgnore := reading.has "no-ignore",
      workers := reading.number? "workers" }

/-- What was asked by `impact`, which is about a symbol. -/
def impactOf (reading : Reading) (symbol : String) : Request :=
  let format := ImpactFormat.all.find? fun format ↦ some format.word == reading.value? "format"
  .impact
    { symbol, file := reading.value? "file", depth := reading.number? "depth",
      format := format.getD .text }

/-- What was asked by `unused`. -/
def unusedOf (reading : Reading) : Request :=
  let format := ListFormat.all.find? fun format ↦ some format.word == reading.value? "format"
  .unused
    { limit := reading.number? "limit", exclude := reading.valuesOf "exclude",
      testPatterns := reading.valuesOf "test-pattern", format := format.getD .text }

/-- The subcommands that are requests, each with its level and what its arguments ask. -/
def subcommand? : String → Option (CommandLevel × (Reading → Except UsageFault Request))
  | "ingest" => some (ingestLevel, fun reading ↦ .ok (ingestOf reading))
  | "impact" =>
    some (impactLevel, fun reading ↦
      match reading.operands with
      | symbol :: _ => .ok (impactOf reading symbol)
      | [] => .error (.missingOperand "SYMBOL"))
  | "unused" => some (unusedLevel, fun reading ↦ .ok (unusedOf reading))
  | "overview" => some (overviewLevel, fun _ ↦ .ok .overview)
  | _ => none

/-- The place before the subcommand. -/
def rootLevel : CommandLevel where
  options :=
    [logOption, helpOption, { name := "version", kind := .version, letter := some 'V' }]
  operands := []
  subcommands := ["ingest", "impact", "unused", "overview", "help"]

/-- What is answered to a request for help about named subcommands, each below the one before. -/
def helpFault : List String → UsageFault
  | [] => .helpRequested
  | [name] =>
    if rootLevel.subcommands.contains name then .helpRequested else .invalidSubcommand name
  | first :: second :: _ =>
    .invalidSubcommand (if rootLevel.subcommands.contains first then second else first)

/-- The command of a subcommand and the arguments after it; `outer` was read before it. -/
def ofSubcommand (outer : Reading) (name : String) (arguments : List String) :
    Except UsageFault Command :=
  match subcommand? name with
  | none => .error (helpFault arguments)
  | some (level, requestOf) => do
    let (read, _) ← Reading.run level .start arguments
    let inner ← read.settle
    let request ← requestOf inner
    let settled ← outer.settle
    let logLevel := inner.value? "log-level" <|> settled.value? "log-level"
    pure { project := projectOf inner, request, logLevel := logLevel.getD "warn" }

/-- The command of the arguments after the program's name. -/
def parse (arguments : List String) : Except UsageFault Command := do
  match ← Reading.run rootLevel .start arguments with
  | (outer, some (name, rest)) => ofSubcommand outer name rest
  | (outer, none) =>
    let settled ← outer.settle
    .error (if settled.values.isEmpty then .nothingGiven else .missingSubcommand)

/-- The name and the version of the program. -/
def versionText : String := "codeseer 0.1.0\n"

/-- How the program is used. -/
def helpText : String :=
  "Cross-file symbol graph: blast radius and dead code\n\n" ++
    "Usage: codeseer [--log-level LEVEL] COMMAND [OPTIONS]\n\n" ++
    "Commands:\n" ++
    "  ingest    Extract symbols, imports and calls, then resolve them\n" ++
    "  impact    Show what calls a symbol, directly and transitively\n" ++
    "  unused    List functions, methods and classes no resolved call reaches\n" ++
    "  overview  Print counts for the stored graph\n" ++
    "  help      Print this message\n"

/-- What is printed as an answer when there is no command. -/
def usageOutput : UsageFault → String
  | .helpRequested => helpText
  | .versionRequested => versionText
  | _ => ""

/-- The exit status when there is no command; a request is no failure. -/
def usageStatus : UsageFault → Nat
  | .helpRequested => 0
  | .versionRequested => 0
  | _ => 2

end SymbolGraph.Command
