import DiagnosticReport.Files.Path
import DiagnosticReport.Files.Tree

/-!
# File systems

A file system is a tree with a working folder, which may be gone. Paths are followed name by name:
`.` stays, `..` goes up and stays at the root, and each step asks that the place reached so far is a
folder that can be entered. A slash at the end of a path only asks for a folder. No operation takes
a path that is too long or holds the character NUL.
-/

namespace DiagnosticReport

/-- A tree with a working folder, from which paths start that are not absolute. -/
structure FileSystem where
  root : Node
  working : List String := []

namespace FileSystem

/-! ## Following paths -/

/-- The most bytes of a name. -/
def longestName : Nat := 255

/-- A text that can be a path. -/
def checkPath (path : String) : Except FileError Unit :=
  if FilePath.hasNul path then .error .nulInPath
  else if FilePath.isShort path then .ok ()
  else .error .nameTooLong

/-- A name that a folder can hold. -/
def checkName (name : String) : Except FileError Unit :=
  if name.utf8ByteSize ≤ longestName then .ok () else .error .nameTooLong

/-- There is a folder at a place. -/
def checkFolder (root : Node) (place : List String) : Except FileError Unit :=
  match root.at? place with
  | some node => if node.isFolder then .ok () else .error .notFolder
  | none => .error .notFound

/-- There is a folder at a place, and names can be looked up in it. -/
def checkEntry (root : Node) (place : List String) : Except FileError Unit := do
  checkFolder root place
  if (root.at? place).any Node.canEnter then .ok () else .error .denied

/-- There is something at a place that is not a link that leads nowhere. -/
def checkTarget (root : Node) (place : List String) : Except FileError Unit :=
  match root.at? place with
  | some (.file (.deadLink reason)) => .error reason
  | some _ => .ok ()
  | none => .error .notFound

/-- The place that steps lead to. -/
def follow (root : Node) (place : List String) : List String → Except FileError (List String)
  | [] => .ok place
  | step :: rest => do
    if step = "" then
      checkFolder root place
      follow root place rest
    else
      checkEntry root place
      if step = "." then follow root place rest
      else if step = ".." then follow root place.dropLast rest
      else
        checkName step
        checkTarget root (place ++ [step])
        follow root (place ++ [step]) rest

/-- Where a path starts. -/
def start (fs : FileSystem) (path : String) : List String :=
  if FilePath.isAbsolute path then [] else fs.working

/-- The place that a path leads to; the empty path leads nowhere. -/
def locate (fs : FileSystem) (path : String) : Except FileError (List String) := do
  checkPath path
  if path.isEmpty then .error .notFound
  else follow fs.root (fs.start path) (FilePath.steps path)

/-- The node that a path leads to. -/
def node (fs : FileSystem) (path : String) : Except FileError Node := do
  let place ← fs.locate path
  match fs.root.at? place with
  | some node => .ok node
  | none => .error .notFound

/-! ## Reading -/

/-- The text of a file. -/
def read (fs : FileSystem) (path : String) : Except FileError String := do
  match ← fs.node path with
  | .file content => content.read
  | .folder _ access =>
    match access.fault with
    | some (.refused reason) => .error reason
    | _ => .error .isFolder

/-- A path leads to something. -/
def contains (fs : FileSystem) (path : String) : Bool :=
  (fs.node path).toOption.isSome

/-- The folder that a path leads to. -/
def folder? (fs : FileSystem) (path : String) : Option Node :=
  (fs.node path).toOption.filter Node.isFolder

mutual

/-- A node at a path as far as it can be searched. What is below a path that is too long, or below a
folder that cannot be entered, is hidden: a folder there passes for a file. -/
def searchable (path : String) : Node → Node
  | .file content => .file content
  | .folder entries access =>
    if FilePath.isShort path then
      if access.canEnter then .folder (searchableIn path entries) access
      else .folder (entries.map fun entry => (entry.1, .file (.unreadable .denied))) access
    else .file (.unreadable .nameTooLong)

/-- The entries of the folder at a path as far as they can be searched. -/
def searchableIn (path : String) : List (String × Node) → List (String × Node)
  | [] => []
  | (name, node) :: rest =>
    (name, searchable (FilePath.join path name) node) :: searchableIn path rest

end

/-- The path of the working folder. -/
def workingPath (fs : FileSystem) : String :=
  "/" ++ String.intercalate "/" fs.working

/-- The path of the working folder, if it is still there. -/
def currentFolder (fs : FileSystem) : Except FileError String := do
  checkFolder fs.root fs.working
  return fs.workingPath

/-! ## Writing -/

/-- The tree with a folder one step behind a way that must lead to a folder; one that is there
already stays as it is. -/
def addFolder (root : Node) (place way : List String) (step : String) : Except FileError Node := do
  let parent ← follow root place way
  checkEntry root parent
  if step = ".." then return root
  checkName step
  match root.at? (parent ++ [step]) with
  | none => return root.put .emptyFolder (parent ++ [step])
  | some node => if node.isFolder then return root else .error .present

/-- The tree with the folder that steps lead to, from the last step to the first one. Folders on the
way are added only if it leads nowhere without them. -/
def addFolders (root : Node) (place : List String) : List String → Except FileError Node
  | [] => .ok root
  | step :: way =>
    match addFolder root place way.reverse step with
    | .error .notFound => do
      let root ← addFolders root place way
      addFolder root place way.reverse step
    | result => result

/-- Make the folder of a path and those on the way, as far as they are missing. -/
def createFolder (fs : FileSystem) (path : String) : Except FileError FileSystem := do
  checkPath path
  let steps := (FilePath.steps path).filter fun step => step != "" && step != "."
  let root ← addFolders fs.root (fs.start path) steps.reverse
  return { fs with root }

/-- The place of a name in the folder of a path, to be written to. -/
def target (fs : FileSystem) (folder name : String) : Except FileError (List String) := do
  checkPath (FilePath.join folder name)
  let place ← fs.locate folder
  checkEntry fs.root place
  checkName name
  let target := place ++ [name]
  if (fs.root.at? target).any Node.isFolder then .error .isFolder else .ok target

/-- Write a file in a folder. -/
def write (fs : FileSystem) (folder name content : String) : Except FileError FileSystem := do
  let target ← fs.target folder name
  return { fs with root := fs.root.put (.file content) target }

/-- Give a file of a folder another name there; a file of that name is replaced. -/
def rename (fs : FileSystem) (folder name newName : String) : Except FileError FileSystem := do
  let source ← fs.target folder name
  let target ← fs.target folder newName
  match fs.root.at? source with
  | some node => return { fs with root := (fs.root.erase source).put node target }
  | none => .error .notFound

end FileSystem

end DiagnosticReport
