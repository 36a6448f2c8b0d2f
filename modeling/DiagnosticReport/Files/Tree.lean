/-!
# Folders and files

A node is a file or a folder with named nodes, in the order in which the folder lists them. A node
below another one is named by the list of names that lead to it. Not every file gives a text, and
not every folder can be listed or entered; whether it can be written to is left out. A link counts
as what it leads to.
-/

namespace DiagnosticReport

/-- Why an operation on files fails. -/
inductive FileError where
  | notFound
  | present
  | notFolder
  | isFolder
  | nameTooLong
  | nulInPath
  | denied
  | notText
  /-- Any other reason, with its wording. -/
  | other (message : String)
deriving DecidableEq

/-- The wording of an error. -/
def FileError.message : FileError → String
  | notFound => "No such file or directory (os error 2)"
  | present => "File exists (os error 17)"
  | notFolder => "Not a directory (os error 20)"
  | isFolder => "Is a directory (os error 21)"
  | nameTooLong => "File name too long (os error 36)"
  | nulInPath => "file name contained an unexpected NUL byte"
  | denied => "Permission denied (os error 13)"
  | notText => "stream did not contain valid UTF-8"
  | other message => message

/-- What a file holds for those who read it. -/
inductive Content where
  | text (content : String)
  /-- The file is there but is not read. -/
  | unreadable (reason : FileError)
  /-- A link that leads nowhere. -/
  | deadLink (reason : FileError)
deriving DecidableEq

instance : Coe String Content := ⟨.text⟩

/-- The text that a reader gets. -/
def Content.read : Content → Except FileError String
  | text content => .ok content
  | unreadable reason | deadLink reason => .error reason

/-- Why a folder is not listed. -/
inductive ListingError where
  | refused (reason : FileError)
  /-- Some of the entries may have been told before. -/
  | cutShort (reason : FileError)
deriving DecidableEq

/-- What can be done with a folder. -/
structure Access where
  /-- Names can be looked up in the folder. -/
  canEnter : Bool := true
  /-- Why the folder is not listed. -/
  fault : Option ListingError := none
deriving DecidableEq

/-- A file or a folder. -/
inductive Node where
  | file (content : Content)
  | folder (entries : List (String × Node)) (access : Access := {})

namespace Node

/-- An empty folder. -/
def emptyFolder : Node :=
  folder []

instance : Inhabited Node := ⟨emptyFolder⟩

/-- The node is a folder. -/
def isFolder : Node → Bool
  | folder _ _ => true
  | file _ => false

/-- The node is a folder in which names can be looked up. -/
def canEnter : Node → Bool
  | folder _ access => access.canEnter
  | file _ => false

/-- The text of a file. -/
def text? : Node → Option String
  | file content => content.read.toOption
  | folder _ _ => none

/-- The entries of a folder, in the order in which it lists them; a file has none. -/
def entries : Node → List (String × Node)
  | folder entries _ => entries
  | file _ => []

/-- The entries that a folder tells, if it tells all of them. -/
def listing : Node → Except ListingError (List (String × Node))
  | folder entries access =>
    match access.fault with
    | none => .ok entries
    | some reason => .error reason
  | file _ => .error (.refused .notFolder)

/-- The node of a name in a folder. -/
def child? (name : String) : Node → Option Node
  | folder entries _ => (entries.find? fun entry => entry.1 == name).map Prod.snd
  | file _ => none

/-- The node that a list of names leads to. -/
def at? (node : Node) : List String → Option Node
  | [] => some node
  | name :: rest => (node.child? name).bind fun child => child.at? rest

/-- Set the node of a name: a known name keeps its place, a new one goes to the end. -/
def putEntry (name : String) (node : Node) : List (String × Node) → List (String × Node)
  | [] => [(name, node)]
  | entry :: rest =>
    if entry.1 = name then (name, node) :: rest else entry :: putEntry name node rest

/-- Set the node that a list of names leads to, with the folders on the way. -/
def put (node : Node) (new : Node) : List String → Node
  | [] => new
  | name :: rest =>
    let child := ((node.child? name).getD emptyFolder).put new rest
    match node with
    | folder entries access => folder (putEntry name child entries) access
    | file _ => folder [(name, child)]

/-- Remove the node that a list of names leads to. -/
def erase (node : Node) : List String → Node
  | [] => node
  | [name] =>
    match node with
    | folder entries access => folder (entries.filter fun entry => entry.1 != name) access
    | file content => file content
  | name :: next :: rest =>
    match node, node.child? name with
    | folder entries access, some child =>
      folder (putEntry name (child.erase (next :: rest)) entries) access
    | other, _ => other

mutual

/-- All files at or below a node, with the names that lead to them. -/
def files : Node → List (List String × Content)
  | file content => [([], content)]
  | folder entries _ => filesIn entries

/-- All files of the entries of a folder. -/
def filesIn : List (String × Node) → List (List String × Content)
  | [] => []
  | (name, node) :: rest =>
    (files node).map (fun entry => (name :: entry.1, entry.2)) ++ filesIn rest

end

mutual

/-- The number of folders at or below a node. -/
def folderCount : Node → Nat
  | file _ => 0
  | folder entries _ => folderCountIn entries + 1

/-- The number of folders at or below the entries of a folder. -/
def folderCountIn : List (String × Node) → Nat
  | [] => 0
  | (_, node) :: rest => folderCount node + folderCountIn rest

end

/-- A folder that is listed counts as one more than the folders in it. -/
theorem folderCount_of_listing {node : Node} {entries : List (String × Node)}
    (h : node.listing = .ok entries) : node.folderCount = folderCountIn entries + 1 := by
  cases node with
  | file content => cases h
  | folder children access =>
    rw [listing] at h
    split at h
    · cases h
      rfl
    · cases h

/-- The texts that are new in a later node or differ there. -/
def changes (earlier later : Node) : List (List String × String) :=
  (later.files.filterMap fun file => file.2.read.toOption.map fun text => (file.1, text)).filter
    fun entry => ((earlier.at? entry.1).bind text?) != some entry.2

end Node

end DiagnosticReport
