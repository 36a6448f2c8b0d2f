import DiagnosticReport.Config.Format
import DiagnosticReport.Files.System

/-!
# Loading files

Documents, recipes and configurations are read from files. A configuration that is not named is
looked for under two names; without one, the defaults hold.
-/

namespace DiagnosticReport

/-- What a file is read as. -/
inductive FileKind where
  | document
  | recipe
  | config

/-- The name of a kind of file. -/
def FileKind.name : FileKind → String
  | document => "IDM"
  | recipe => "recipe"
  | config => "config"

/-- Why a file cannot be loaded. -/
inductive LoadError where
  | notRead (kind : FileKind) (path : String) (reason : FileError)
  /-- The text is not the JSON that was expected. -/
  | malformed (kind : FileKind) (path : String)
  | documentNotAnObject (path : String)
  | recipe (path : String) (reason : RecipeError)
  | config (path : String) (reason : ConfigError)
  /-- The settings are rejected that hold without a file. -/
  | settings (reason : ConfigError)

/-- The failure with its wording. -/
def LoadError.toFailure : LoadError → Failure
  | notRead kind path reason =>
    .ofMessages ("failed to read " ++ kind.name ++ " file: " ++ path) [reason.message]
  | malformed kind path => ⟨"failed to parse " ++ kind.name ++ " file: " ++ path, [.unreadable]⟩
  | documentNotAnObject path => ⟨"IDM document must be a JSON object: " ++ path, []⟩
  | recipe path reason => reason.toFailure.within ("invalid recipe in: " ++ path)
  | config path reason => reason.toFailure.within ("invalid config in: " ++ path)
  | settings reason => reason.toFailure

namespace FileSystem

/-- The text of a file of some kind. -/
def readAs (fs : FileSystem) (kind : FileKind) (path : String) : Except LoadError String :=
  (fs.read path).mapError (.notRead kind path)

/-- The document in a file. -/
def loadDocument (fs : FileSystem) (path : String) : Except LoadError Json := do
  let text ← fs.readAs .document path
  match Json.parse? text with
  | none => .error (.malformed .document path)
  | some document =>
    if document.isObject then .ok document else .error (.documentNotAnObject path)

/-- The recipe in a file. -/
def loadRecipe (fs : FileSystem) (path : String) : Except LoadError Recipe := do
  let text ← fs.readAs .recipe path
  (Recipe.parse text).mapError (.recipe path)

/-- The configuration in a file; it is only loaded if its settings are valid. -/
def loadConfig (fs : FileSystem) (path : String) : Except LoadError Config := do
  let text ← fs.readAs .config path
  match Config.record.readText? text with
  | none => .error (.malformed .config path)
  | some config =>
    match config.validate with
    | .ok _ => .ok config
    | .error reason => .error (.config path reason)

/-- The names under which a configuration is looked for, first one first. -/
def configNames : List String :=
  [".idmreportrc.json", "idmreport.config.json"]

/-- The configuration in a folder with its path, if there is one under a known name. -/
def discoverConfig (fs : FileSystem) (folder : String) :
    Except LoadError (Option (String × Config)) :=
  match (configNames.map (FilePath.join folder)).find? fs.contains with
  | some path => (fs.loadConfig path).map fun config => some (path, config)
  | none => .ok none

/-- The configuration in the named file, else the one in the folder, else the empty one. -/
def chooseConfig (fs : FileSystem) (folder : String) (path : Option String) :
    Except LoadError (Option String × Config) :=
  match path with
  | some path => (fs.loadConfig path).map fun config => (some path, config)
  | none => (fs.discoverConfig folder).map fun
    | some (path, config) => (some path, config)
    | none => (none, {})

/-- The settings from the named file, else from the folder, else the defaults. -/
def loadSettings (fs : FileSystem) (folder : String) (path : Option String) :
    Except LoadError Settings := do
  let (origin, config) ← fs.chooseConfig folder path
  let settings ← config.resolve.mapError .settings
  return { settings with origin }

end FileSystem

end DiagnosticReport
