import DiagnosticReport.Chart.Bar
import DiagnosticReport.Chart.Donut
import DiagnosticReport.Chart.Radar
import DiagnosticReport.Chart.Waterfall
import DiagnosticReport.Visual.Basic
import DiagnosticReport.Visual.Item

/-!
# Charts of items

Items turned into series, for the radar, bar, donut and gap charts.
-/

namespace DiagnosticReport.Visual

/-- Labels and scores of the items that have a score. -/
def scoredSeries (bindings : Bindings) (s : Section) : List (Datum Float) :=
  (Item.shown s bindings.primary?).filterMap fun item =>
    (Item.score? s item).map fun score => ⟨Item.label s item, score⟩

/-! ## Radar and bars -/

/-- The measures of the radar chart, by the options of the section and the report. -/
def radarConfig (s : Section) (options : RenderOptions) : Radar.Config Float :=
  let config := Radar.Config.withSize ((s.numberOption? "size").getD options.radarSize)
  { config with
    industryAverage := (s.numberOption? "industry_average").getD options.industryAverage,
    topQuartile := (s.numberOption? "top_quartile").getD options.topQuartile }

/-- A radar chart. -/
def drawRadarChart : Drawing := fun bindings s options =>
  orEmptyState "No scores available" (scoredSeries bindings s) fun series =>
    Radar.draw series (radarConfig s options) options.thresholds options.brand.primaryColor

/-- A bar chart. -/
def drawBarChart : Drawing := fun bindings s options =>
  orEmptyState "No scores available" (scoredSeries bindings s) fun series =>
    Bar.draw series (.withWidth ((s.numberOption? "width").getD options.barWidth))
      options.thresholds

/-! ## Donut -/

/-- The group of an item: the text of a field, or `Other`. -/
def groupOf (field : String) (item : Json) : String :=
  ((item.present? field).map Json.text).getD "Other"

/-- Count one more member of a group; a new group goes to the end. -/
def countInto (groups : List (String × Float)) (group : String) : List (String × Float) :=
  match groups with
  | [] => [(group, 1.0)]
  | (name, n) :: rest =>
    if name = group then (name, n + 1.0) :: rest else (name, n) :: countInto rest group

/-- The groups of items with their sizes, in the order of their first members. -/
def groupCounts (field : String) (items : List Json) : List (String × Float) :=
  (items.map (groupOf field)).foldl countInto []

/-- One slice per group of items. -/
def groupSlices (field : String) (items : List Json) : List (Donut.Slice Float) :=
  (groupCounts field items).map fun (name, n) => { label := name, value := n }

/-- One slice per item with a score. -/
def itemSlices (s : Section) (items : List Json) : List (Donut.Slice Float) :=
  items.filterMap fun item => (Item.score? s item).map fun score =>
    { label := Item.label s item, value := score, color := item.stringAt? "color" }

/-- The slices of a section: by group if it names a field for that, else by item. -/
def slices (bindings : Bindings) (s : Section) : List (Donut.Slice Float) :=
  let items := Item.all s bindings.primary?
  match s.textOption? "group_by" with
  | some field => groupSlices field items
  | .none => itemSlices s (Item.limit s items)

/-- A donut chart. -/
def drawDonutChart : Drawing := fun bindings s _ =>
  let slices := slices bindings s
  if slices.any fun slice => Binary64.isFinite slice.value && Binary64.less 0.0 slice.value then
    Donut.draw slices (.withSize ((s.numberOption? "size").getD 220.0))
      (s.textOption? "center_label")
  else emptyState "No data available"

/-! ## Gaps -/

/-- The items of a gap chart, with the targets under the field that the section names. -/
def gapItems (bindings : Bindings) (s : Section) : List (Waterfall.Item Float) :=
  let field := (s.textOption? "target_field").getD "target"
  (Item.shown s bindings.primary?).filterMap fun item =>
    (Item.score? s item).map fun score =>
      { label := Item.label s item, current := score, target := item.numberAt? field }

/-- The measures of the gap chart; the common target is the bound of the best band unless the
section gives one. -/
def gapConfig (s : Section) (options : RenderOptions) : Waterfall.Config Float :=
  { Waterfall.Config.withWidth ((s.numberOption? "width").getD 640.0) with
    defaultTarget := (s.numberOption? "target").getD options.thresholds.excellence }

/-- A gap chart. -/
def drawGapChart : Drawing := fun bindings s options =>
  orEmptyState "No scores available" (gapItems bindings s) fun items =>
    Waterfall.draw items (gapConfig s options) options.brand.primaryColor

end DiagnosticReport.Visual
