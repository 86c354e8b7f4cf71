import SymbolGraph.CommandLine.Parse
import SymbolGraph.CommandLine.Run

/-!
# The program

Reads the command line and the files that the command is about, runs the command, writes the store
back and prints the answer. What is read is what a run can look at: the source files and ignore
files of the repository, the ignore files above it, and the file of the store.
-/

set_option autoImplicit false

namespace SymbolGraph.Program

/-- The names of the files that hold ignore rules, in a directory. -/
def ignoreFiles : List (List String) :=
  [[".ignore"], [".gitignore"], [".git", "info", "exclude"]]

/-- The bytes of a file, if it can be read. -/
def bytes? (path : String) : IO (Option ByteArray) := do
  try
    let content ← IO.FS.readBinFile path
    return some content
  catch _ => return none

/-- The absolute path of what exists at a path. -/
def realPath? (path : String) : IO (Option String) := do
  try
    let real ← IO.FS.realPath path
    if ← real.pathExists then return some real.toString else return none
  catch _ => return none

/-- The tree with the ignore files of a directory. -/
def withIgnoreFiles (files : FileTree) (place : List String) : IO FileTree := do
  let mut current := files
  for names in ignoreFiles do
    if let some content ← bytes? (Workspace.shown (place ++ names)) then
      current := current.place (place ++ names) (.file content)
  return current

/-- The tree with the source files and ignore files below a place. Symbolic links are not
followed. -/
partial def withSources (files : FileTree) (place : List String) : IO FileTree := do
  let directory ← IO.FS.realPath (Workspace.shown place)
  let mut current ← withIgnoreFiles (files.makeDirectory place) place
  for entry in ← directory.readDir do
    let inner := place ++ [entry.fileName]
    match (← entry.path.symlinkMetadata).type with
    | .dir =>
      if !Scan.passedOver.contains entry.fileName then
        current ← withSources current inner
    | .file =>
      if (Language.ofPath? entry.fileName).isSome then
        if let some content ← bytes? (Workspace.shown inner) then
          current := current.place inner (.file content)
    | _ => pure ()
  return current

/-- The tree with what exists at the place of a repository, and the ignore files above it. -/
def withRepository (files : FileTree) (place : List String) : IO FileTree := do
  let mut current := files
  for depth in List.range place.length do
    current ← withIgnoreFiles current (place.take depth)
  let root ← IO.FS.realPath (Workspace.shown place)
  if ← root.isDir then withSources current place
  else
    match ← bytes? (Workspace.shown place) with
    | some content => return current.place place (.file content)
    | none => return current

/-- The command about the repository's absolute path, if it exists, and the files it can look at. -/
def prepare (command : Command) : IO (Command × Workspace) := do
  let here := Path.segments (← IO.currentDir).toString
  let empty : Workspace := ⟨here, FileTree.emptyDirectory.makeDirectory here⟩
  let storePlace := empty.place command.storePath
  let (command, files) ← match ← realPath? command.project.repository with
    | none => pure (command, empty.files)
    | some real =>
      let project := { command.project with
        repository := real, storePath := some command.storePath }
      let place := Path.segments real
      let files ← if command.request.readsFiles then withRepository empty.files place
        else pure (empty.files.makeDirectory place)
      pure ({ command with project }, files)
  match ← bytes? (Workspace.shown storePlace) with
  | some content => return (command, ⟨here, files.place storePlace (.file content)⟩)
  | none => return (command, ⟨here, files⟩)

/-- Writes the file of the store, if it is not as it was. -/
def saveStore (place : List String) (before after : Workspace) : IO Unit := do
  match after.files.contentAt? place with
  | none => pure ()
  | some content =>
    if (before.files.contentAt? place).map (·.toList) ≠ some content.toList then
      IO.FS.createDirAll (Workspace.shown place.dropLast)
      IO.FS.writeBinFile (Workspace.shown place) content

/-- The settings in the environment. -/
def environment : IO (String → Option String) := do
  let mut entries : List (String × String) := []
  for name in Config.variableNames do
    if let some value ← IO.getEnv name then
      entries := (name, value) :: entries
  return fun name ↦ entries.lookup name

/-- Runs a command; gives the exit status. -/
def execute (asked : Command) : IO UInt32 := do
  let started ← IO.monoMsNow
  let config := Config.load (← environment)
  let (command, workspace) ← prepare asked
  let (result, after) := command.run config workspace
  saveStore (workspace.place command.storePath) workspace after
  let finished ← IO.monoMsNow
  IO.print (command.request.timed (finished - started) result.output).render
  IO.eprint result.notice
  return result.status.toUInt32

/-- Tells why there is no command; gives the exit status. -/
def explain (fault : UsageFault) : IO UInt32 := do
  IO.print (Command.usageOutput fault)
  if Command.usageStatus fault ≠ 0 then
    IO.eprint ("error: " ++ fault.message ++ "\n\n" ++ Command.helpText)
  return (Command.usageStatus fault).toUInt32

end SymbolGraph.Program

/-- Runs the command of the arguments. -/
def main (arguments : List String) : IO UInt32 := do
  match SymbolGraph.Command.parse arguments with
  | .error fault => SymbolGraph.Program.explain fault
  | .ok command =>
    try SymbolGraph.Program.execute command
    catch failure =>
      IO.eprint ("Error: " ++ toString failure ++ "\n")
      return 1
