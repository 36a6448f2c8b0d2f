import DiagnosticReport.Command.Arguments
import DiagnosticReport.Command.Discovery
import DiagnosticReport.Report.Document

/-!
# Rendering into files

Recipes are named or found in a folder; all of them are loaded before the first report is written.
A report is written under a temporary name and then renamed, so no half-written report ever has the
final name.
-/

namespace DiagnosticReport

/-! ## Recipes -/

namespace FileSystem

/-- The recipes of files, after recipes that are loaded already, given by id and path. -/
def loadRecipesAfter (fs : FileSystem) (loaded : List (String × String)) :
    List String → Except CommandError (List Recipe)
  | [] => .ok []
  | path :: rest => do
    let recipe ← (fs.loadRecipe path).mapError .load
    match loaded.lookup recipe.reportId with
    | some first => .error (.duplicateReport recipe.reportId first path)
    | none => do
      let others ← loadRecipesAfter fs ((recipe.reportId, path) :: loaded) rest
      return recipe :: others

/-- The recipes of files, no two with one id. -/
def loadRecipes (fs : FileSystem) (paths : List String) : Except CommandError (List Recipe) :=
  loadRecipesAfter fs [] paths

end FileSystem

/-! ## Names of reports -/

/-- The characters that an id keeps in the name of a file. -/
def isFileNameChar (c : Char) : Bool :=
  isAsciiAlphanumeric c || c == '-' || c == '_' || c == '.'

/-- A text without the dots at its ends. -/
def trimDots (cs : List Char) : List Char :=
  ((cs.dropWhile (· == '.')).reverse.dropWhile (· == '.')).reverse

/-- The id of a report as the name of a file. -/
def fileStem (reportId : String) : String :=
  match trimDots (reportId.toList.map fun c => if isFileNameChar c then c else '_') with
  | [] => "report"
  | cs => String.ofList cs

/-- The name of the file of a report. -/
def reportName (reportId : String) : String :=
  fileStem reportId ++ ".html"

/-- The name under which a report is written first. -/
def temporaryName (reportId : String) : String :=
  fileStem reportId ++ ".html.tmp"

/-! ## Writing -/

/-- Changes of a file system that an error may stop; what was changed before it stays. -/
abbrev Writing := ExceptT CommandError (StateM FileSystem)

/-- One change of the file system. -/
def change (act : FileSystem → Except FileError FileSystem) (error : FileError → CommandError) :
    Writing Unit := do
  match act (← get) with
  | .ok fs => set fs
  | .error reason => throw (error reason)

/-- Write a report into a folder; the result is its path. -/
def writeReport (folder reportId content : String) : Writing String := do
  let shown := FilePath.folderText folder
  let temporary := temporaryName reportId
  let name := reportName reportId
  change (fun fs => fs.createFolder shown) (.folderNotCreated shown)
  change (fun fs => fs.write folder temporary content)
    (.temporaryNotWritten (FilePath.join folder temporary))
  change (fun fs => fs.rename folder temporary name) (.notRenamed (FilePath.join folder name))
  return FilePath.join folder name

/-- What is needed to render: a document and recipes. -/
structure RenderInputs where
  document : Json
  recipes : List Recipe

namespace FileSystem

/-- Load the document and the recipes of a request. -/
def loadInputs (fs : FileSystem) (settings : Settings) (request : RenderRequest) :
    Except CommandError RenderInputs := do
  let document ← (fs.loadDocument request.document).mapError .load
  let found ← match request.recipesFolder with
    | some folder => fs.discoverRecipes settings folder
    | none => .ok []
  let paths := request.recipes ++ found
  if paths.isEmpty then .error .noRecipes
  else return ⟨document, ← fs.loadRecipes paths⟩

end FileSystem

/-- The inputs without the recipes that break down. -/
def RenderInputs.unbroken (inputs : RenderInputs) : RenderInputs :=
  { inputs with recipes := inputs.recipes.filter fun recipe => !recipe.breaks inputs.document }

/-- Render all recipes into a folder, if none breaks down; the result is the paths of the
reports. -/
def writeReports (inputs : RenderInputs) (options : RenderOptions) (folder : String) :
    Writing (List String) :=
  inputs.recipes.mapM fun recipe =>
    writeReport folder recipe.reportId (recipe.report .builtin options inputs.document)

end DiagnosticReport
