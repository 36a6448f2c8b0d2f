import DiagnosticReport.Command.Run

/-!
# The command line

The files that a command can read are taken into a `FileSystem`; then the command runs, and the
files that it changed are written, each under a temporary name first.
-/

namespace DiagnosticReport.CommandLine

/-- The path of a place from the root. -/
def pathOf (place : List String) : String :=
  "/" ++ String.intercalate "/" place

/-- Why the system did not do something. -/
def reasonOf : IO.Error → FileError
  | .noFileOrDirectory .. => .notFound
  | .permissionDenied .. => .denied
  | .userError _ => .notText
  | error => .other (toString error)

/-- What a file holds for its reader. -/
def readContent (path : String) : IO Content := do
  try return .text (← IO.FS.readFile path)
  catch error => return .unreadable (reasonOf error)

/-- The tree of a folder, or a file. -/
partial def readTree (path : String) : IO Node := do
  try
    let real ← IO.FS.realPath path
    if ← real.isDir then
      try
        let entries ← real.readDir
        let nodes ← entries.toList.mapM fun entry => do
          return (entry.fileName, ← readTree (FilePath.join path entry.fileName))
        return .folder nodes
      catch error => return .folder [] { fault := some (.refused (reasonOf error)) }
    else return .file (← readContent path)
  catch error => return .file (.deadLink (reasonOf error))

/-- A file, or a folder without its entries; none if there is nothing. -/
def readNode (path : String) : IO (Option Node) := do
  try
    let real ← IO.FS.realPath path
    if ← real.isDir then return some .emptyFolder
    else return some (.file (← readContent path))
  catch
    | .noFileOrDirectory .. => return none
    | error => return some (.file (.deadLink (reasonOf error)))

/-- Take in everything along steps from a place. -/
def takeSteps (root : Node) (place : List String) : List String → IO Node
  | [] => return root
  | step :: rest => do
    if step = "" ∨ step = "." then takeSteps root place rest
    else if step = ".." then takeSteps root place.dropLast rest
    else
      let next := place ++ [step]
      if (root.at? next).any Node.isFolder then takeSteps root next rest
      else
        match ← readNode (pathOf next) with
        | some node => takeSteps (root.put node next) next rest
        | none => return root

/-- Take in everything along a path. -/
def take (fs : FileSystem) (path : String) : IO FileSystem := do
  return { fs with root := ← takeSteps fs.root (fs.start path) (FilePath.steps path) }

/-- Take in a folder with all that is below it. -/
def takeTree (fs : FileSystem) (path : String) : IO FileSystem := do
  let fs ← take fs path
  match (fs.locate path).toOption with
  | some place => return { fs with root := fs.root.put (← readTree path) place }
  | none => return fs

/-- The files that hold the configuration, if one is named or not. -/
def configPaths (path : Option String) : List String :=
  match path with
  | some path => [path]
  | none => FileSystem.configNames

/-- The files that a command may read, and the folder that it reads as a whole. -/
def sources : Command → List String × Option String
  | .render r =>
    (configPaths r.config ++ [r.document] ++ r.recipes ++ [r.outputFolder], r.recipesFolder)
  | .resolve document _ => ([document], none)
  | .validateRecipe file => ([file], none)
  | .validateConfig file => (configPaths file, none)
  | .showConfig file => (configPaths file, none)

/-- The file system as far as a command may read it. -/
def observe (command : Command) : IO FileSystem := do
  let working := FilePath.steps (← IO.currentDir).toString
  let root := Node.put .emptyFolder .emptyFolder working
  let (files, folder) := sources command
  let fs ← files.foldlM take { root, working }
  match folder with
  | some folder => takeTree fs folder
  | none => return fs

/-- Write a file, under another name first. -/
def store (place : List String) (content : String) : IO Unit := do
  let path := pathOf place
  IO.FS.createDirAll (pathOf place.dropLast)
  IO.FS.writeFile (path ++ ".tmp") content
  IO.FS.rename (path ++ ".tmp") path

/-- How the program is used. -/
def usage : String :=
  "usage: idmreport render --idm FILE [--recipe FILE]... [--recipes-dir DIR] [--out-dir DIR]" ++
    " [--config FILE]\n" ++
  "       idmreport resolve --idm FILE (--path PATH | --source JSON)\n" ++
  "       idmreport recipe validate FILE\n" ++
  "       idmreport config (validate | show) [--path FILE]"

/-- Run a command and carry out what it did. -/
def execute (command : Command) : IO UInt32 := do
  let before ← observe command
  let result := command.run before
  for (place, content) in before.root.changes result.files.root do
    store place content
  for line in result.notes do
    IO.eprintln line
  for line in result.output do
    IO.println line
  return result.exitCode.toUInt32

end DiagnosticReport.CommandLine

open DiagnosticReport in
/-- Run the command of the command line. -/
def main (args : List String) : IO UInt32 :=
  match Command.parse? args with
  | some command => CommandLine.execute command
  | none => do
    IO.eprintln CommandLine.usage
    return 2
