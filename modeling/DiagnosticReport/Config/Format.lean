import DiagnosticReport.Config.Basic
import DiagnosticReport.Recipe.Format

/-!
# The JSON form of a configuration

Unknown fields are refused at every level but that of the brand. The writer gives every field,
with `null` for what is left open.
-/

namespace DiagnosticReport

/-- A value or `null`. -/
def Json.orNull {α : Type} (write : α → Json) : Option α → Json
  | some value => write value
  | none => .null

namespace BandSettings

/-- The fields of the bands. -/
def record : Record BandSettings where
  name := "BandConfig"
  isOpen := false
  blank := {}
  fields := [
    .of "excellence" .nullable (.nullable .float) (fun v b => { b with excellence := v }),
    .of "proficiency" .nullable (.nullable .float) (fun v b => { b with proficiency := v }),
    .of "attention" .nullable (.nullable .float) (fun v b => { b with attention := v })]

/-- The bands as JSON. -/
def toJson (bands : BandSettings) : Json :=
  .object [("excellence", .orNull .ofFloat bands.excellence),
    ("proficiency", .orNull .ofFloat bands.proficiency),
    ("attention", .orNull .ofFloat bands.attention)]

end BandSettings

namespace BenchmarkSettings

/-- The fields of the reference scores. -/
def record : Record BenchmarkSettings where
  name := "BenchmarkConfig"
  isOpen := false
  blank := {}
  fields := [
    .of "industry_average" .nullable (.nullable .float)
      (fun v b => { b with industryAverage := v }),
    .of "top_quartile" .nullable (.nullable .float) (fun v b => { b with topQuartile := v })]

/-- The reference scores as JSON. -/
def toJson (benchmarks : BenchmarkSettings) : Json :=
  .object [("industry_average", .orNull .ofFloat benchmarks.industryAverage),
    ("top_quartile", .orNull .ofFloat benchmarks.topQuartile)]

end BenchmarkSettings

namespace ChartSettings

/-- The fields of the chart sizes. -/
def record : Record ChartSettings where
  name := "ChartConfig"
  isOpen := false
  blank := {}
  fields := [
    .of "radar_size" .nullable (.nullable .float) (fun v c => { c with radarSize := v }),
    .of "bar_width" .nullable (.nullable .float) (fun v c => { c with barWidth := v })]

/-- The chart sizes as JSON. -/
def toJson (charts : ChartSettings) : Json :=
  .object [("radar_size", .orNull .ofFloat charts.radarSize),
    ("bar_width", .orNull .ofFloat charts.barWidth)]

end ChartSettings

namespace TableSettings

/-- The fields of the table limits. -/
def record : Record TableSettings where
  name := "TableConfig"
  isOpen := false
  blank := {}
  fields := [.of "max_columns" .nullable (.nullable .size) (fun v t => { t with maxColumns := v })]

/-- The table limits as JSON. -/
def toJson (table : TableSettings) : Json :=
  .object [("max_columns", .orNull .ofNat table.maxColumns)]

end TableSettings

namespace DiscoverySettings

/-- The fields of the discovery. -/
def record : Record DiscoverySettings where
  name := "RecipeDiscoveryConfig"
  isOpen := false
  blank := {}
  fields := [
    .of "include" .optional (.list .string) (fun v d => { d with included := v }),
    .of "exclude" .optional (.list .string) (fun v d => { d with excluded := v })]

/-- The discovery as JSON. -/
def toJson (discovery : DiscoverySettings) : Json :=
  .object [("include", .ofStrings discovery.included), ("exclude", .ofStrings discovery.excluded)]

end DiscoverySettings

namespace Config

/-- The fields of a configuration. -/
def record : Record Config where
  name := "IdmReportConfig"
  isOpen := false
  blank := {}
  fields := [
    .of "bands" .optional (.nullable BandSettings.record.read)
      (fun v c => { c with bands := v }) BandSettings.record.shape,
    .of "benchmarks" .optional (.nullable BenchmarkSettings.record.read)
      (fun v c => { c with benchmarks := v }) BenchmarkSettings.record.shape,
    .of "brand" .optional (.nullable BrandOverrides.record.read)
      (fun v c => { c with brand := v }) BrandOverrides.record.shape,
    .of "charts" .optional (.nullable ChartSettings.record.read)
      (fun v c => { c with charts := v }) ChartSettings.record.shape,
    .of "table" .optional (.nullable TableSettings.record.read)
      (fun v c => { c with table := v }) TableSettings.record.shape,
    .of "recipes" .optional (.nullable DiscoverySettings.record.read)
      (fun v c => { c with discovery := v }) DiscoverySettings.record.shape,
    .of "footer_text" .optional (.nullable .string) (fun v c => { c with footerText := v })]

/-- A configuration as JSON. -/
def toJson (config : Config) : Json :=
  .object [("bands", .orNull BandSettings.toJson config.bands),
    ("benchmarks", .orNull BenchmarkSettings.toJson config.benchmarks),
    ("brand", .orNull BrandOverrides.toJson config.brand),
    ("charts", .orNull ChartSettings.toJson config.charts),
    ("table", .orNull TableSettings.toJson config.table),
    ("recipes", .orNull DiscoverySettings.toJson config.discovery),
    ("footer_text", .orNull .string config.footerText)]

end Config

end DiagnosticReport
