import SymbolGraph.CommandLine.Command
import SymbolGraph.CommandLine.Workspace
import SymbolGraph.Config
import SymbolGraph.Report.Encode
import SymbolGraph.Report.Text
import SymbolGraph.Store.Archive

/-!
# Running a command

A command opens the store of its repository, answers from it, and leaves the changed store in its
file. `Request.answer` is the part that concerns the store alone, given what is known of the
repository (`Site`); `Command.run` is the whole run in a workspace.

The store lies in the repository unless the command names another file, and is made when it is not
there. A project is known by the URL of its directory unless the command gives another.
-/

set_option autoImplicit false

namespace SymbolGraph

/-- What a command prints as its answer. -/
inductive Output where
  | text (content : String)
  | document (value : Json)

/-- The answer as text. -/
def Output.render : Output → String
  | .text content => content
  | .document value => value.render ++ "\n"

/-- How a run ended. -/
structure RunResult where
  status : Nat
  output : Output
  /-- What is reported beside the answer. -/
  notice : String

namespace RunResult

/-- A run that answered. -/
def answered (output : Output) : RunResult :=
  ⟨0, output, ""⟩

/-- The exit status for a symbol that is not stored. -/
def notFoundStatus : Nat := 2

/-- A run that failed. -/
def failed (failure : GraphError) : RunResult :=
  ⟨1, .text "", "Error: " ++ failure.message ++ "\n"⟩

end RunResult

/-- What a request is about besides the store. -/
structure Site where
  /-- The name of the project, if it is new. -/
  name : String
  url : String
  /-- The text of a file of the repository. -/
  text? : String → Option String
  /-- The source files of the repository. -/
  sources : List ScannedFile

namespace Request

/-- The answer about the callers of a symbol. -/
def impactAnswer (config : Config) (site : Site) (store : Store) (projectId : Int)
    (options : ImpactOptions) : RunResult :=
  let query : ImpactQuery :=
    { symbol := options.symbol, file := options.file,
      maxDepth := options.depth.getD config.impactMaxDepth }
  let limits := ImpactLimits.ofMilliseconds config.impactTimeoutMs config.impactMaxResults
  match Impact.analyze store projectId query limits, options.format with
  | .notFound symbol, .text =>
    ⟨RunResult.notFoundStatus, .text "", (GraphError.notFound symbol).message ++ "\n"⟩
  | .notFound symbol, _ =>
    ⟨RunResult.notFoundStatus, .document (ImpactOutcome.notFound symbol).json, ""⟩
  | .found report, .text => .answered (.text (Report.impactText site.text? report))
  | .found report, .json => .answered (.document (ImpactOutcome.found report).json)
  | .found report, .graph => .answered (.document (ImpactGraph.ofReport report).json)
  | .found report, .dot => .answered (.text (ImpactGraph.ofReport report).toDot)

/-- The answer about uncalled symbols. -/
def unusedAnswer (config : Config) (store : Store) (projectId : Int) (options : UnusedOptions) :
    Except GraphError RunResult :=
  let defaults := DeadCode.defaultOptions (options.limit.getD config.deadCodeLimit)
  let testPatterns :=
    if options.testPatterns.isEmpty then defaults.testPatterns else options.testPatterns
  let asked := { defaults with testPatterns, exclude := options.exclude }
  (DeadCode.find store projectId asked).map fun report ↦
    .answered <| match options.format with
      | .text => .text (Report.deadCodeText report)
      | .json => .document report.json

/-- Answers a request from the store. -/
def answer (config : Config) (site : Site) (request : Request) : Store.Change RunResult := do
  match request with
  | .ingest _ =>
    let summary ← Ingest.repository site.name site.url config.maxFileBytes
      config.resolveBatchSize site.sources
    pure (.answered (.document summary.json))
  | .impact options =>
    let store ← get
    let project ← store.requireProject site.url
    pure (impactAnswer config site store project.id options)
  | .unused options =>
    let store ← get
    let project ← store.requireProject site.url
    unusedAnswer config store project.id options
  | .overview =>
    let store ← get
    let project ← store.requireProject site.url
    pure (.answered (.document (store.overview project).json))

/-- The answer depends on the files of the repository, and not on the store alone. -/
def readsFiles : Request → Bool
  | .ingest _ => true
  | .impact _ => true
  | .unused _ => false
  | .overview => false

/-- The answer to a request that took so many milliseconds. Only the summary of a stored repository
says so. -/
def timed (request : Request) (milliseconds : Nat) (output : Output) : Output :=
  match request, output with
  | .ingest _, .document (.object fields) =>
    .document (.object (fields ++ [("duration_ms", .count milliseconds)]))
  | _, _ => output

end Request

namespace Command

/-- The path of the store's file. -/
def storePath (command : Command) : String :=
  command.project.storePath.getD (command.project.repository ++ "/.codeseer/codeseer.sqlite")

/-- The directory of the repository: the place of what is there, or else the path as it is given. -/
def repositoryPath (command : Command) (workspace : Workspace) : String :=
  match workspace.canonical? command.project.repository with
  | some place => Workspace.shown place
  | none => command.project.repository

/-- The ignore files of the directories above a place, the nearest first. -/
def scopesAbove (files : FileTree) (place : List String) : List IgnoreScope :=
  let above := (List.range place.length).map fun depth ↦ (place.take depth, place.drop depth)
  let scopes := above.filterMap fun (outer, inner) ↦
    (files.find? outer).map fun directory ↦
      ({ files := .ofDirectory directory, place := inner } : IgnoreScope)
  scopes.reverse

/-- The source files below a place. -/
def sources (files : FileTree) (place : List String) (noIgnore : Bool) : List ScannedFile :=
  match files.find? place with
  | none => []
  | some tree =>
    let scopes := if noIgnore then none else some (scopesAbove files place)
    Scan.files scopes (place.getLast?.getD "") tree

/-- What a command is about, in a workspace. The name and the URL of the project come from the
directory before the store is opened when the repository is about to be stored, otherwise after. -/
def site (command : Command) (before opened : Workspace) : Site :=
  let place := opened.place command.project.repository
  let files := opened.files
  match command.request with
  | .ingest options =>
    let path := command.repositoryPath before
    { name := options.name.getD ((Path.fileName? path).getD "project"),
      url := command.project.url.getD (Path.fileUrl path),
      text? := fun _ ↦ none,
      sources := sources files place options.noIgnore }
  | _ =>
    { name := "",
      url := command.project.url.getD (Path.fileUrl (command.repositoryPath opened)),
      text? := fun path ↦ files.textAt? (place ++ Path.segments path),
      sources := [] }

/-- The store kept at a place, which is empty where there is none. -/
def openStore (path : String) (place : List String) (workspace : Workspace) :
    Except GraphError Store :=
  if workspace.isObstructed place then .error (.other ("create db directory of " ++ path))
  else
    match workspace.files.find? place with
    | none => .ok .empty
    | some tree =>
      match tree.content?.bind String.fromUTF8? with
      | none => .error (.other ("open " ++ path))
      | some text => Store.decode text

/-- Runs a command in a workspace; gives how it ended and the workspace it leaves. -/
def run (config : Config) (command : Command) (workspace : Workspace) : RunResult × Workspace :=
  let place := workspace.place command.storePath
  match openStore command.storePath place workspace with
  | .error failure => (.failed failure, workspace)
  | .ok store =>
    let save := fun (store : Store) (current : Workspace) ↦
      current.withFile place (Store.encode store).toUTF8
    let opened := save store (workspace.withParents place)
    match (command.request.answer config (command.site workspace opened)).run store with
    | .error failure => (.failed failure, opened)
    | .ok (result, next) => (result, save next opened)

end Command

end SymbolGraph
