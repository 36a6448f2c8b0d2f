import DiagnosticReport.Band
import DiagnosticReport.Failure
import DiagnosticReport.Glob.Expression
import DiagnosticReport.Glob.Reader
import DiagnosticReport.Recipe.Basic
import DiagnosticReport.Decimal.Notation

/-!
# Configuration

A configuration gives any of the settings of the renderer; what it leaves open has a default.
`Config.validate` checks the groups of settings that are given. `Config.resolve` asks for that and
then fills in the defaults by itself and makes sets of the patterns.
-/

namespace DiagnosticReport

/-! ## Settings as given -/

/-- Lower bounds of the upper three bands. -/
structure BandSettings where
  excellence : Option Float := none
  proficiency : Option Float := none
  attention : Option Float := none

/-- Reference scores of the radar chart. -/
structure BenchmarkSettings where
  industryAverage : Option Float := none
  topQuartile : Option Float := none

/-- Sizes of the charts. -/
structure ChartSettings where
  radarSize : Option Float := none
  barWidth : Option Float := none

/-- Limits of inferred tables. -/
structure TableSettings where
  maxColumns : Option Nat := none

/-- Patterns of the recipe files to render. -/
structure DiscoverySettings where
  included : List String := []
  excluded : List String := []

/-- A configuration. -/
structure Config where
  bands : Option BandSettings := none
  benchmarks : Option BenchmarkSettings := none
  brand : Option BrandOverrides := none
  charts : Option ChartSettings := none
  table : Option TableSettings := none
  discovery : Option DiscoverySettings := none
  footerText : Option String := none

/-! ## Effective settings -/

/-- What the renderers of a report are told. -/
structure RenderOptions where
  brand : Brand := {}
  thresholds : Thresholds := {}
  radarSize : Float := 400.0
  barWidth : Float := 520.0
  industryAverage : Float := 60.0
  topQuartile : Float := 75.0
  /-- The most columns of an inferred table. -/
  maxColumns : Nat := 6
  footerText : String := "Generated by IDM Report"

/-- A configuration with defaults filled in and patterns read. -/
structure Settings where
  options : RenderOptions
  included : List Glob
  excluded : List Glob
  /-- The file that the configuration came from. -/
  origin : Option String := none

/-- Why a configuration is rejected. -/
inductive ConfigError where
  | notPositive (name : String) (value : Float)
  | outOfRange (name : String) (value min max : Float)
  | notBelow (name : String) (value : Float) (upperName : String) (upper : Float)
  | columns (count : Nat)
  | blankBrand (name : String)
  | pattern (list text : String) (fault : Glob.Fault)
  | glob (text : String) (fault : Glob.Fault)
  | patternSet (fault : Glob.SetFault)

namespace ConfigError

/-- The wording of a pattern that cannot be read. -/
def globMessage (text : String) (fault : Glob.Fault) : String :=
  "error parsing glob '" ++ text ++ "': " ++ fault.message

/-- The failure with its wording. -/
def toFailure : ConfigError → Failure
  | notPositive name value =>
    ⟨name ++ " must be positive (got " ++ Decimal.positional value ++ ")", []⟩
  | outOfRange name value min max =>
    ⟨name ++ " must be between " ++ Decimal.positional min ++ " and " ++ Decimal.positional max ++
      " (got " ++ Decimal.positional value ++ ")", []⟩
  | notBelow name value upperName upper =>
    ⟨name ++ " (" ++ Decimal.positional value ++ ") must be less than " ++ upperName ++ " (" ++
      Decimal.positional upper ++ ")", []⟩
  | columns count =>
    ⟨"table.max_columns must be between 1 and 20 (got " ++ Decimal.natText count ++ ")", []⟩
  | blankBrand name => ⟨name ++ " must not be empty", []⟩
  | pattern list text fault =>
    .ofMessages ("invalid " ++ list ++ " pattern: " ++ text) [globMessage text fault]
  | glob text fault => ⟨globMessage text fault, []⟩
  | patternSet fault => ⟨fault.message, []⟩

end ConfigError

namespace Config

/-! ## Checks -/

/-- A value lies in a closed range. -/
def checkRange (name : String) (value min max : Float) : Except ConfigError Unit :=
  if !Binary64.isFinite value || Binary64.less value min || Binary64.less max value then
    .error (.outOfRange name value min max)
  else .ok ()

/-- A bound of a band lies above 0 and at most at 100. -/
def checkBound (name : String) (value : Float) : Except ConfigError Unit :=
  if Binary64.lessEq value 0.0 then .error (.notPositive name value)
  else checkRange name value 0.0 100.0

/-- One value lies strictly below another. -/
def checkBelow (name : String) (value : Float) (upperName : String) (upper : Float) :
    Except ConfigError Unit :=
  if Binary64.lessEq upper value then .error (.notBelow name value upperName upper) else .ok ()

/-- The bounds of the bands are in range and in order; one that is left open has its default. -/
def checkBands (given : BandSettings) : Except ConfigError Unit := do
  let excellence := given.excellence.getD 80.0
  let proficiency := given.proficiency.getD 60.0
  let attention := given.attention.getD 40.0
  checkBound "bands.excellence" excellence
  checkBound "bands.proficiency" proficiency
  checkBound "bands.attention" attention
  checkBelow "bands.attention" attention "bands.proficiency" proficiency
  checkBelow "bands.proficiency" proficiency "bands.excellence" excellence

/-- The reference scores are in range and in order; one that is left open has its default. -/
def checkBenchmarks (given : BenchmarkSettings) : Except ConfigError Unit := do
  let average := given.industryAverage.getD 60.0
  let top := given.topQuartile.getD 75.0
  checkRange "benchmarks.industry_average" average 0.0 100.0
  checkRange "benchmarks.top_quartile" top 0.0 100.0
  checkBelow "benchmarks.industry_average" average "benchmarks.top_quartile" top

/-- The sizes that are given are in range. -/
def checkCharts (given : ChartSettings) : Except ConfigError Unit := do
  given.radarSize.forM (checkRange "charts.radar_size" · 100.0 2000.0)
  given.barWidth.forM (checkRange "charts.bar_width" · 100.0 2000.0)

/-- The number of columns lies between 1 and 20. -/
def checkColumns (count : Nat) : Except ConfigError Unit :=
  if 1 ≤ count ∧ count ≤ 20 then .ok () else .error (.columns count)

/-- A part of the brand, if given, is not blank. -/
def checkBrandPart (name : String) (value : Option String) : Except ConfigError Unit :=
  if value.any Text.isAllBlank then .error (.blankBrand name) else .ok ()

/-- Colours and fonts, if given, are not blank. -/
def checkBrand (brand : BrandOverrides) : Except ConfigError Unit := do
  checkBrandPart "brand.primary_color" brand.primaryColor
  checkBrandPart "brand.accent_color" brand.accentColor
  checkBrandPart "brand.font_heading" brand.headingFont
  checkBrandPart "brand.font_body" brand.bodyFont

/-- A pattern of a list can be read. -/
def checkPattern (list text : String) : Except ConfigError Unit :=
  match Glob.parse text with
  | .ok _ => .ok ()
  | .error fault => .error (.pattern list text fault)

/-- All patterns can be read. -/
def checkPatterns (given : DiscoverySettings) : Except ConfigError Unit := do
  given.included.forM (checkPattern "include")
  given.excluded.forM (checkPattern "exclude")

/-- Check what a configuration gives; a group that it leaves out is not looked at. -/
def validate (config : Config) : Except ConfigError Unit := do
  config.bands.forM checkBands
  config.benchmarks.forM checkBenchmarks
  config.charts.forM checkCharts
  (config.table.bind TableSettings.maxColumns).forM checkColumns
  config.brand.forM checkBrand
  config.discovery.forM checkPatterns

/-! ## Defaults -/

/-- The bounds of the bands. -/
def thresholds (config : Config) : Thresholds :=
  match config.bands with
  | some given =>
    { excellence := given.excellence.getD 80.0,
      proficiency := given.proficiency.getD 60.0,
      attention := given.attention.getD 40.0 }
  | none => {}

/-- The reference scores: the average and the top quartile. -/
def referenceScores (config : Config) : Float × Float :=
  match config.benchmarks with
  | some given => (given.industryAverage.getD 60.0, given.topQuartile.getD 75.0)
  | none => (60.0, 75.0)

/-- The size of the radar chart and the width of the bar chart. -/
def chartSizes (config : Config) : Float × Float :=
  match config.charts with
  | some given => (given.radarSize.getD 400.0, given.barWidth.getD 520.0)
  | none => (400.0, 520.0)

/-- The brand under that of each recipe. -/
def effectiveBrand (config : Config) : Brand :=
  match config.brand with
  | some overrides => Brand.merge {} overrides
  | none => {}

/-- The settings of the renderers. -/
def options (config : Config) : RenderOptions where
  brand := config.effectiveBrand
  thresholds := config.thresholds
  radarSize := config.chartSizes.1
  barWidth := config.chartSizes.2
  industryAverage := config.referenceScores.1
  topQuartile := config.referenceScores.2
  maxColumns := (config.table.bind TableSettings.maxColumns).getD 6
  footerText := config.footerText.getD "Generated by IDM Report"

/-- The pattern of recipe files if none is given. -/
def defaultPattern : String :=
  "**/*.json"

/-- The patterns that include. -/
def includePatterns (config : Config) : List String :=
  let given := (config.discovery.getD {}).included
  if given.isEmpty then [defaultPattern] else given

/-- The patterns that exclude. -/
def excludePatterns (config : Config) : List String :=
  (config.discovery.getD {}).excluded

/-! ## Resolved settings -/

/-- Patterns, ready for use as a set. -/
def compile (patterns : List String) : Except ConfigError (List Glob) := do
  let globs ← patterns.mapM fun text => (Glob.parse text).mapError (.glob text)
  (Glob.checkSet globs).mapError .patternSet
  return globs

/-- Check a configuration and fill in its defaults. -/
def resolve (config : Config) : Except ConfigError Settings := do
  config.validate
  let included ← compile config.includePatterns
  let excluded ← compile config.excludePatterns
  return ⟨config.options, included, excluded, none⟩

end Config

/-- A recipe file is rendered: it matches a pattern that includes and none that excludes. -/
def Settings.includes (settings : Settings) (path : String) : Bool :=
  !settings.excluded.any (·.isMatch path) && settings.included.any (·.isMatch path)

end DiagnosticReport
