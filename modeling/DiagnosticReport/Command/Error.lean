import DiagnosticReport.Files.Loading

/-!
# Errors of commands

What stops a command, and the lines that tell it: the summary, then the causes, numbered if there
is more than one.
-/

namespace DiagnosticReport

/-- What stops a command. -/
inductive CommandError where
  | load (reason : LoadError)
  | configuration (reason : LoadError)
  | noWorkingFolder (reason : FileError)
  | noRecipesFolder (path : String)
  | folderNotRead (path : String) (reason : FileError)
  | entryNotRead (reason : FileError)
  | noRecipes
  | duplicateReport (id first second : String)
  | malformedSource
  | folderNotCreated (path : String) (reason : FileError)
  | temporaryNotWritten (path : String) (reason : FileError)
  | notRenamed (path : String) (reason : FileError)

/-- The failure with its wording. -/
def CommandError.toFailure : CommandError → Failure
  | load reason => reason.toFailure
  | configuration reason => reason.toFailure.within "failed to load configuration"
  | noWorkingFolder reason | entryNotRead reason => ⟨reason.message, []⟩
  | noRecipesFolder path => ⟨"Recipes directory does not exist: " ++ path, []⟩
  | folderNotRead path reason =>
    .ofMessages ("Failed to read directory: " ++ path) [reason.message]
  | noRecipes => ⟨"no recipes given (use --recipe or --recipes-dir)", []⟩
  | duplicateReport id first second =>
    ⟨"duplicate report_id '" ++ id ++ "' in " ++ first ++ " and " ++ second, []⟩
  | malformedSource => ⟨"--source is not a valid data source", [.unreadable]⟩
  | folderNotCreated path reason =>
    .ofMessages ("Failed to create directory: " ++ path) [reason.message]
  | temporaryNotWritten path reason =>
    .ofMessages ("Failed to write temporary file: " ++ path) [reason.message]
  | notRenamed path reason =>
    .ofMessages ("Failed to rename temporary file to: " ++ path) [reason.message]

/-- A text whose lines after the first one are indented. -/
def hangingText (indent text : String) : String :=
  String.intercalate ("\n" ++ indent) ((text.toList.splitOn '\n').map String.ofList)

/-- The line of the cause at a position, if it has a wording. -/
def causeLine? (isNumbered : Bool) (i : Nat) (cause : Cause) : Option String :=
  cause.message?.map fun message =>
    if isNumbered then
      let number := (Nat.toDigits 10 i).leftpad 5 ' '
      String.ofList number ++ ": " ++ hangingText "       " message
    else "    " ++ hangingText "    " message

/-- The lines that tell a failure. -/
def Failure.lines (failure : Failure) : List String :=
  let isNumbered := failure.causes.length > 1
  ["Error: " ++ failure.summary] ++
    if failure.causes.isEmpty then []
    else ["", "Caused by:"] ++ (failure.causes.mapIdx (causeLine? isNumbered)).filterMap id

end DiagnosticReport
