import DiagnosticReport.Band
import DiagnosticReport.Chart.Drawing
import DiagnosticReport.Chart.Plane

/-!
# Bar chart

One horizontal bar per score, from top to bottom, on a track that stands for 100.
-/

namespace DiagnosticReport.Bar

/-- The measures of a chart. -/
structure Config (α : Type) where
  width : α
  barHeight : α
  gap : α
  /-- Room for the labels on the left. -/
  labelWidth : α
  /-- Room for the scores on the right. -/
  valueWidth : α

/-- A bar with its place. -/
structure Rect (α : Type) where
  label : String
  value : α
  x : α
  y : α
  width : α
  height : α
  /-- Where the text of the score starts. -/
  valueX : α

section geometry

variable {α : Type} [Scalar α]

open Scalar

/-- The measures of a canvas; widths below 100 are taken for 520. -/
@[specialize] def Config.withWidth (width : α) : Config α :=
  let width := if isFinite width && !less width 100.0 then width else 520.0
  { width, barHeight := 22.0, gap := 10.0, labelWidth := smaller (width * 0.3) 180.0,
    valueWidth := 44.0 }

/-- The length of a bar of 100. -/
@[specialize] def Config.chartWidth (config : Config α) : α :=
  larger (config.width - config.labelWidth - config.valueWidth) 0.0

/-- The distance of two bars, from top to top. -/
@[specialize] def Config.pitch (config : Config α) : α :=
  config.barHeight + config.gap

/-- The bar of a score at a position. -/
@[specialize] def bar (config : Config α) (i : Nat) (datum : Datum α) : Rect α :=
  let value := clampScore datum.value
  let width := value / 100.0 * config.chartWidth
  { label := datum.label, value, x := config.labelWidth, y := config.gap + ofNat i * config.pitch,
    width, height := config.barHeight, valueX := config.labelWidth + width + 6.0 }

/-- The bars of a series. -/
@[specialize] def geometry (data : List (Datum α)) (config : Config α) : List (Rect α) :=
  data.mapIdx (bar config)

/-- The height of the canvas for a number of bars. -/
@[specialize] def Config.height (config : Config α) (n : Nat) : α :=
  config.gap + ofNat n * config.pitch

end geometry

/-! ## Drawing -/

/-- A bar with its track, its label and its score. -/
def drawBar (chartWidth : Float) (thresholds : Thresholds) (bar : Rect Float) : Markup :=
  let middle := coordinate (bar.y + bar.height / 2.0)
  let band := thresholds.classify bar.value
  let rect (styleClass width fill : String) : Markup :=
    .leaf .rect [(.styleClass, styleClass), (.x, coordinate bar.x), (.y, coordinate bar.y),
      (.width, width), (.height, coordinate bar.height), (.rx, "3"), (.fill, fill)]
  .element .text [(.styleClass, "bar-label"), (.x, coordinate (bar.x - 8.0)), (.y, middle),
    (.textAnchor, "end"), (.dominantBaseline, "middle"), (.fontSize, "12"), (.fill, "#374151")]
    (.text bar.label) ++
  rect "bar-track" (coordinate chartWidth) "#f3f4f6" ++
  rect ("bar " ++ band.styleClass) (coordinate bar.width) band.color ++
  .element .text [(.styleClass, "bar-value"), (.x, coordinate bar.valueX), (.y, middle),
    (.dominantBaseline, "middle"), (.fontSize, "12"), (.fontWeight, "600"), (.fill, "#111827")]
    (.text (roundedText bar.value))

/-- The chart of the given scores. -/
def draw (data : List (Datum Float)) (config : Config Float) (thresholds : Thresholds) : Markup :=
  let bars := geometry data config
  canvas config.width (config.height bars.length) "bar-chart" "Bar chart"
    (.concat (bars.map (drawBar config.chartWidth thresholds)))

end DiagnosticReport.Bar
