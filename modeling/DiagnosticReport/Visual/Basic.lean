import DiagnosticReport.Config.Basic
import DiagnosticReport.Markup.Basic
import DiagnosticReport.Query.Source

/-!
# Visuals

The visuals that a section can name by a tag, and what all of them draw with: the bindings, the
section and the options of the report.
-/

namespace DiagnosticReport

/-- A built-in visual. -/
inductive Visual where
  | scoreTile
  | scoreTiles
  | radarChart
  | barChart
  | progressBar
  | table
  | checklist
  | timeline
  | riskMatrix
  | roadmapTimeline
  | kpiDashboard
  | textBlock
  | narrativeBlock
  | bulletList
  | numberedList
  | calloutBox
  | metricCard
  | comparisonTable
  /-- Nothing below the heading. -/
  | none
  | donutChart
  | gapChart
deriving DecidableEq

namespace Visual

/-- All built-in visuals. -/
def all : List Visual :=
  [scoreTile, scoreTiles, radarChart, barChart, progressBar, table, checklist, timeline,
   riskMatrix, roadmapTimeline, kpiDashboard, textBlock, narrativeBlock, bulletList, numberedList,
   calloutBox, metricCard, comparisonTable, none, donutChart, gapChart]

/-- The tag by which a section names a visual. -/
def tag : Visual → String
  | scoreTile => "score_tile"
  | scoreTiles => "score_tiles"
  | radarChart => "radar_chart"
  | barChart => "bar_chart"
  | progressBar => "progress_bar"
  | table => "table"
  | checklist => "checklist"
  | timeline => "timeline"
  | riskMatrix => "risk_matrix"
  | roadmapTimeline => "roadmap_timeline"
  | kpiDashboard => "kpi_dashboard"
  | textBlock => "text_block"
  | narrativeBlock => "narrative_block"
  | bulletList => "bullet_list"
  | numberedList => "numbered_list"
  | calloutBox => "callout_box"
  | metricCard => "metric_card"
  | comparisonTable => "comparison_table"
  | none => "none"
  | donutChart => "donut_chart"
  | gapChart => "gap_chart"

/-- The visual of a tag. -/
def ofTag? (tag : String) : Option Visual :=
  all.find? fun visual => visual.tag == tag

/-- The wording for a tag that names no visual. -/
def unknownTag (tag : String) : String :=
  "unknown visual type: " ++ tag

end Visual

/-- What a visual draws: the markup of a section's body. -/
abbrev Drawing := Bindings → Section → RenderOptions → Markup

/-- The message of a section that has nothing to draw. -/
def emptyState (message : String) : Markup :=
  .styled .p "empty-state" (.text message)

/-- The pieces of a list, or a message if there are none. -/
def orEmptyState {α : Type} (message : String) (pieces : List α) (draw : List α → Markup) :
    Markup :=
  if pieces.isEmpty then emptyState message else draw pieces

end DiagnosticReport
