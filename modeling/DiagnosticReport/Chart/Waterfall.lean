import DiagnosticReport.Chart.Drawing

/-!
# Gap chart

The first column is the mean of the current scores. Each further column floats one item's share of
the gap to the mean target, stacked upward; shares are in proportion to the shortfall of each item
from its own target.
-/

namespace DiagnosticReport.Waterfall

/-- An item with its score and, if it has one, its own target. -/
structure Item (α : Type) where
  label : String
  current : α
  target : Option α := none

/-- The measures of a chart. -/
structure Config (α : Type) where
  width : α
  height : α
  defaultTarget : α
  /-- Room for the labels below the columns. -/
  labelBand : α

/-- A column of the stack, between two levels. -/
structure Step (α : Type) where
  label : String
  shortfall : α
  /-- The share of the gap. -/
  contribution : α
  start : α
  finish : α

/-- The levels of a chart. -/
structure Geometry (α : Type) where
  now : α
  target : α
  gap : α
  steps : List (Step α)

section geometry

variable {α : Type} [Scalar α]

open Scalar

/-- The measures of a canvas; widths below 200 are taken for 640. -/
@[specialize] def Config.withWidth (width : α) : Config α :=
  let width := if isFinite width && !less width 200.0 then width else 640.0
  { width, height := 260.0, defaultTarget := 80.0, labelBand := 36.0 }

/-- The height of the plot. -/
@[specialize] def Config.plotHeight (config : Config α) : α :=
  larger (config.height - config.labelBand - 12.0) 0.0

/-- The height at which a score lies. -/
@[specialize] def Config.yOf (config : Config α) (score : α) : α :=
  12.0 + config.plotHeight * (1.0 - clampScore score / 100.0)

/-- The score of an item. -/
@[specialize] def Item.score (item : Item α) : α :=
  clampScore item.current

/-- The target of an item, its own or the common one. -/
@[specialize] def Item.goal (default : α) (item : Item α) : α :=
  clampScore (item.target.getD default)

/-- What an item is short of its target. -/
@[specialize] def Item.shortfall (default : α) (item : Item α) : α :=
  larger (item.goal default - item.score) 0.0

/-- The columns of items from a level on, for a gap and the total of all shortfalls. -/
@[specialize] def stepsFrom (default gap total level : α) : List (Item α) → List (Step α)
  | [] => []
  | item :: rest =>
    let shortfall := item.shortfall default
    let contribution := if less 0.0 total then gap * shortfall / total else 0.0
    let finish := level + contribution
    ⟨item.label, shortfall, contribution, level, finish⟩ ::
      stepsFrom default gap total finish rest

/-- The levels for the given items. -/
@[specialize] def geometry (items : List (Item α)) (config : Config α) : Geometry α :=
  let default := config.defaultTarget
  if items.isEmpty then ⟨0.0, clampScore default, 0.0, []⟩
  else
    let n : α := ofNat items.length
    let now := sum (items.map Item.score) / n
    let target := sum (items.map (Item.goal default)) / n
    let gap := larger (target - now) 0.0
    let total := sum (items.map (Item.shortfall default))
    ⟨now, target, gap, stepsFrom default gap total now items⟩

end geometry

/-! ## Drawing -/

/-- The column of the current score. -/
def nowColumn (config : Config Float) (now columnWidth barWidth : Float) (color : String) :
    Markup :=
  let base := config.yOf 0.0
  let top := config.yOf now
  let center := coordinate (columnWidth / 2.0)
  .leaf .rect [(.styleClass, "gap-now"), (.x, coordinate ((columnWidth - barWidth) / 2.0)),
    (.y, coordinate top), (.width, coordinate barWidth), (.height, coordinate (base - top)),
    (.fill, color)] ++
  centeredText center (coordinate (top - 4.0)) "11" "#111827" (roundedText now)
    [(.fontWeight, "600")] ++
  centeredText center (coordinate (base + 16.0)) "11" "#374151" "Now" []

/-- The column of the step at a position. -/
def stepColumn (config : Config Float) (columnWidth barWidth : Float) (i : Nat)
    (step : Step Float) : Markup :=
  let center := columnWidth * (Float.ofNat i + 1.5)
  let top := config.yOf step.finish
  let bottom := config.yOf step.start
  .element .rect [(.styleClass, "gap-step"), (.x, coordinate (center - barWidth / 2.0)),
    (.y, coordinate top), (.width, coordinate barWidth), (.height, coordinate (bottom - top)),
    (.fill, "#ffc107"), (.fillOpacity, "0.85")]
    (.plain .title (.text (step.label ++ ": +" ++ coordinate step.contribution))) ++
  centeredText (coordinate center) (coordinate (config.yOf 0.0 + 16.0)) "10" "#374151" step.label []

/-- A line across the canvas. -/
def acrossLine (config : Config Float) (styleClass y stroke width : String)
    (more : List (Attribute × String)) : Markup :=
  .leaf .line ([(.styleClass, styleClass), (.x1, "0"), (.y1, y), (.x2, coordinate config.width),
    (.y2, y), (.stroke, stroke), (.strokeWidth, width)] ++ more)

/-- The dashed line of the target with its label. -/
def targetLine (config : Config Float) (target : Float) : Markup :=
  acrossLine config "gap-target" (coordinate (config.yOf target)) "#28a745" "2"
    [(.strokeDasharray, "6 4")] ++
  .element .text [(.x, coordinate config.width), (.y, coordinate (config.yOf target - 4.0)),
    (.textAnchor, "end"), (.fontSize, "10"), (.fill, "#28a745")]
    (.text ("Target " ++ roundedText target))

/-- The chart of the given items. -/
def draw (items : List (Item Float)) (config : Config Float) (color : String) : Markup :=
  let g := geometry items config
  let columnWidth := config.width / (Float.ofNat g.steps.length + 1.0)
  let barWidth := columnWidth * 0.6
  canvas config.width config.height "gap-chart" "Gap to target"
    (nowColumn config g.now columnWidth barWidth color ++
    .concat (g.steps.mapIdx (stepColumn config columnWidth barWidth)) ++
    targetLine config g.target ++
    acrossLine config "gap-axis" (coordinate (config.yOf 0.0)) "#d1d5db" "1" [])

end DiagnosticReport.Waterfall
