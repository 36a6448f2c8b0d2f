/-!
# Paths of files

A path is a text of names with slashes between them. It stays as it was given wherever it is shown;
only the steps count for where it leads.
-/

namespace DiagnosticReport.FilePath

/-- The path starts at the root. -/
def isAbsolute (path : String) : Bool :=
  path.toList.head? == some '/'

/-- The path ends with a slash, so it must lead to a folder. -/
def endsWithSlash (path : String) : Bool :=
  path.toList.getLast? == some '/'

/-- The most bytes of a path that a file system takes. -/
def maxBytes : Nat := 4095

/-- The path is short enough for a file system. -/
def isShort (path : String) : Bool :=
  path.utf8ByteSize ≤ maxBytes

/-- The path holds the character NUL. -/
def hasNul (path : String) : Bool :=
  path.toList.contains '\x00'

/-- The pieces of a path between its slashes. -/
def pieces (path : String) : List String :=
  (path.toList.splitOn '/').map String.ofList

/-- The steps of a path; a slash at the end is one more step, without a name. -/
def steps (path : String) : List String :=
  (pieces path).filter (fun piece => !piece.isEmpty) ++ if endsWithSlash path then [""] else []

/-- The path of a name in a folder. -/
def join (folder name : String) : String :=
  if folder.isEmpty || endsWithSlash folder then folder ++ name else folder ++ "/" ++ name

/-- The path of several names, one in the other, in a folder. -/
def joinAll (folder : String) (names : List String) : String :=
  names.foldl join folder

/-- The pieces of a path in reverse, without those at the end that lead nowhere else. -/
def trimmedPieces : List String → List String
  | piece :: next :: rest =>
    if piece = "" ∨ piece = "." then trimmedPieces (next :: rest) else piece :: next :: rest
  | short => short

/-- The path of a folder as it is shown for something in it. -/
def folderText (folder : String) : String :=
  match (trimmedPieces (pieces folder).reverse).reverse with
  | [""] => "/"
  | shown => String.intercalate "/" shown

/-- The path without a leading `./`. -/
def withoutDot (path : String) : String :=
  match path.toList with
  | '.' :: '/' :: rest => String.ofList rest
  | _ => path

end DiagnosticReport.FilePath
