import DiagnosticReport.Command.Reports

/-!
# Running commands

`Command.run` is what a command line does to a file system and what it tells. Nothing but
rendering changes a file. A command during which a sort breaks down is aborted; what the runtime
writes to standard error then is left out.
-/

namespace DiagnosticReport

/-- What a command comes to. -/
structure Result where
  exitCode : Nat := 0
  /-- The lines of standard output. -/
  output : List String := []
  /-- The lines of standard error. -/
  notes : List String := []
  files : FileSystem

namespace Result

/-- A command that fails. -/
def failed (files : FileSystem) (notes : List String) : Result :=
  { exitCode := 1, notes, files }

/-- A command that an error stops, after some notes. -/
def stopped (files : FileSystem) (error : CommandError) (notes : List String := []) : Result :=
  failed files (notes ++ error.toFailure.lines)

/-- A command that breaks down. -/
def aborted (files : FileSystem) (notes : List String := []) : Result :=
  { exitCode := 101, notes, files }

end Result

namespace Command

/-! ## Rendering -/

/-- The note on the configuration in use, if it came from a file. -/
def configNotes (settings : Settings) : List String :=
  (settings.origin.map ("Using config: " ++ ·)).toList

/-- Render reports under some settings. Recipes are rendered side by side: the one that breaks down
gets no report, and the command is aborted when all others are done. -/
def renderWith (fs : FileSystem) (settings : Settings) (request : RenderRequest) : Result :=
  match fs.loadInputs settings request with
  | .error error => .stopped fs error (configNotes settings)
  | .ok inputs =>
    let written := (writeReports inputs.unbroken settings.options request.outputFolder).run.run fs
    if inputs.recipes.any fun recipe => recipe.breaks inputs.document then
      .aborted written.2 (configNotes settings)
    else
      match written with
      | (.ok paths, files) =>
        { output := paths.map ("Wrote " ++ ·), notes := configNotes settings, files }
      | (.error error, files) => .stopped files error (configNotes settings)

/-- Do something in the working folder, by its path. -/
def inWorkingFolder (fs : FileSystem) (act : String → Result) : Result :=
  match fs.currentFolder with
  | .error reason => .stopped fs (.noWorkingFolder reason)
  | .ok folder => act folder

/-- Render reports. -/
def runRender (fs : FileSystem) (request : RenderRequest) : Result :=
  inWorkingFolder fs fun folder =>
    match fs.loadSettings folder request.config with
    | .error reason => .stopped fs (.configuration reason)
    | .ok settings => renderWith fs settings request

/-! ## Looking up -/

/-- Show what was found, if anything was. -/
def showFound (fs : FileSystem) : Option Json → Result
  | some value => { output := [value.pretty], files := fs }
  | none => { output := ["null"], notes := ["Nothing resolved."], files := fs }

/-- Look something up in a document and show what is found. -/
def lookUp (fs : FileSystem) (document : Json) : Lookup → Result
  | .path text => showFound fs (resolvePath? document text)
  | .source text =>
    match DataSource.record.readText? text with
    | some source =>
      if source.breaks document then .aborted fs else showFound fs (source.resolve? document)
    | none => .stopped fs .malformedSource

/-- Show what a lookup finds. -/
def runResolve (fs : FileSystem) (document : String) (lookup : Lookup) : Result :=
  match fs.loadDocument document with
  | .error reason => .stopped fs (.load reason)
  | .ok document => lookUp fs document lookup

/-! ## Recipes -/

/-- The warning on a data source, if it could not be read. -/
def sourceWarning? (s : Section) (source : DataSource) : Option String :=
  source.fault.map fun fault =>
    "  warning: section '" ++ s.id ++ "' data source '" ++ source.id ++
      "' could not be loaded: " ++ fault.message

/-- The warning on the visual of a section, if there is none of its tag. -/
def visualWarning? (s : Section) : Option String :=
  if Registry.builtin.contains s.visual then none
  else
    some ("  warning: section '" ++ s.id ++ "' uses unsupported visual type '" ++ s.visual ++ "'")

/-- The warnings on a section. -/
def sectionWarnings (s : Section) : List String :=
  match s.fault with
  | some fault =>
    ["  warning: section '" ++ s.id ++ "' could not be loaded: " ++ fault.message]
  | none => s.sources.filterMap (sourceWarning? s) ++ (visualWarning? s).toList

/-- Check a recipe. -/
def runValidateRecipe (fs : FileSystem) (file : String) : Result :=
  match fs.loadRecipe file with
  | .error reason => .failed fs ["Recipe validation failed: " ++ reason.toFailure.message]
  | .ok recipe =>
    { output := ["Recipe valid: " ++ file ++ " (" ++ Decimal.natText recipe.sections.length ++
        " sections)"],
      notes := recipe.sections.flatMap sectionWarnings, files := fs }

/-! ## Configurations -/

/-- Check a configuration. -/
def runValidateConfig (fs : FileSystem) (file : Option String) : Result :=
  inWorkingFolder fs fun folder =>
    match fs.loadSettings folder file with
    | .error reason => .failed fs ["Config validation failed: " ++ reason.toFailure.message]
    | .ok settings =>
      match settings.origin with
      | some path => { output := ["Config valid: " ++ path], files := fs }
      | none => { output := ["No config file found. Using defaults."], files := fs }

/-- A list of patterns. -/
def patternsText (patterns : List Glob) : String :=
  String.intercalate ", " (patterns.map Glob.text)

/-- The lines that show settings. -/
def settingsLines (settings : Settings) : List String :=
  let o := settings.options
  let t := o.thresholds
  let number (x : Float) := Decimal.positional x
  ["Configuration:",
    "  Source: " ++ settings.origin.getD "defaults (no config file found)",
    "",
    "Bands:",
    "  excellence: " ++ number t.excellence,
    "  proficiency: " ++ number t.proficiency,
    "  attention: " ++ number t.attention,
    "",
    "Benchmarks:",
    "  industry_average: " ++ number o.industryAverage,
    "  top_quartile: " ++ number o.topQuartile,
    "",
    "Brand:",
    "  primary_color: " ++ o.brand.primaryColor,
    "  accent_color: " ++ o.brand.accentColor,
    "  font_heading: " ++ o.brand.headingFont,
    "  font_body: " ++ o.brand.bodyFont,
    "  logo_text: " ++ o.brand.logoText.getD "none",
    "",
    "Charts:",
    "  radar_size: " ++ number o.radarSize,
    "  bar_width: " ++ number o.barWidth,
    "",
    "Table:",
    "  max_columns: " ++ Decimal.natText o.maxColumns,
    "",
    "Recipes:",
    "  include: " ++ patternsText settings.included,
    "  exclude: " ++
      (if settings.excluded.isEmpty then "none" else patternsText settings.excluded),
    "",
    "Footer: " ++ o.footerText]

/-- Show the settings in force. -/
def runShowConfig (fs : FileSystem) (file : Option String) : Result :=
  inWorkingFolder fs fun folder =>
    match fs.loadSettings folder file with
    | .error reason => .stopped fs (.configuration reason)
    | .ok settings => { output := settingsLines settings, files := fs }

/-- Run a command. -/
def run (fs : FileSystem) : Command → Result
  | render request => runRender fs request
  | resolve document lookup => runResolve fs document lookup
  | validateRecipe file => runValidateRecipe fs file
  | validateConfig file => runValidateConfig fs file
  | showConfig file => runShowConfig fs file

/-- Run a command line; one that is used wrongly ends with the code 2. -/
def runLine (fs : FileSystem) (args : List String) : Result :=
  match parse? args with
  | some command => run fs command
  | none => { exitCode := 2, files := fs }

end Command

end DiagnosticReport
