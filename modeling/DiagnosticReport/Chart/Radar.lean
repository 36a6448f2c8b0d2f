import DiagnosticReport.Band
import DiagnosticReport.Chart.Drawing
import DiagnosticReport.Chart.Plane

/-!
# Radar chart

Axis `i` of `n` stands at the angle `i * 2π / n - π / 2`, so the first one points straight up. A
score `s` lies at the distance `s / 100` of the largest radius from the centre. Two dashed circles
show the reference scores.
-/

namespace DiagnosticReport.Radar

/-- The measures of a chart. -/
structure Config (α : Type) where
  /-- Length of an edge of the square canvas. -/
  size : α
  maxRadius : α
  /-- Number of rings. -/
  levels : Nat
  /-- Distance of the labels from the outermost ring. -/
  labelOffset : α
  industryAverage : α
  topQuartile : α

/-- A corner of the score polygon. -/
structure Vertex (α : Type) where
  point : Point α
  angle : α
  score : α

/-- Where a label hangs. -/
inductive Anchor where
  | start
  | middle
  | finish

/-- A label of an axis. -/
structure Label (α : Type) where
  point : Point α
  anchor : Anchor
  text : String

/-- The places of all parts of a chart. -/
structure Geometry (α : Type) where
  center : Point α
  maxRadius : α
  rings : List α
  /-- Outer ends of the axes. -/
  spokes : List (Point α)
  vertices : List (Vertex α)
  labels : List (Label α)
  industryRadius : α
  topQuartileRadius : α

section geometry

variable {α : Type} [Circular α]

open Scalar

/-- The measures of a canvas; sizes below 100 are taken for 400. -/
@[specialize] def Config.withSize (size : α) : Config α :=
  let size := if isFinite size && !less size 100.0 then size else 400.0
  { size, maxRadius := size * 0.34, levels := 5, labelOffset := 18.0, industryAverage := 60.0,
    topQuartile := 75.0 }

/-- The middle of the canvas. -/
@[specialize] def Config.center (config : Config α) : Point α :=
  ⟨config.size / 2.0, config.size / 2.0⟩

/-- The angle of axis `i` of `n`. -/
@[specialize] def axisAngle (i n : Nat) : α :=
  let up : α := Circular.pi / 2.0
  if n = 0 then -up else ofNat i * (2.0 * Circular.pi / ofNat n) - up

/-- A label near the vertical through the centre hangs by its middle, others by the end that is
nearer to the centre. -/
@[specialize] def labelAnchor (x centerX : α) : Anchor :=
  if less (x - centerX) 1.0 && less (centerX - x) 1.0 then .middle
  else if less centerX x then .start
  else .finish

/-- The largest radius; a measure that is no positive number counts as 0. -/
@[specialize] def Config.outerRadius (config : Config α) : α :=
  if isFinite config.maxRadius && less 0.0 config.maxRadius then config.maxRadius else 0.0

/-- The distance of a score from the centre. -/
@[specialize] def Config.radiusOf (config : Config α) (score : α) : α :=
  clampScore score / 100.0 * config.outerRadius

/-- The corner of a score on axis `i` of `n`. -/
@[specialize] def vertex (config : Config α) (n i : Nat) (score : α) : Vertex α :=
  let angle := axisAngle i n
  let score := clampScore score
  ⟨.polar config.center (config.radiusOf score) angle, angle, score⟩

/-- The label of axis `i` of `n`. -/
@[specialize] def axisLabel (config : Config α) (n i : Nat) (text : String) : Label α :=
  let point := Point.polar config.center (config.outerRadius + config.labelOffset) (axisAngle i n)
  ⟨point, labelAnchor point.x config.center.x, text⟩

/-- The places of all parts for the given scores. -/
@[specialize] def geometry (axes : List (Datum α)) (config : Config α) : Geometry α :=
  let n := axes.length
  let levels := max config.levels 1
  { center := config.center,
    maxRadius := config.outerRadius,
    rings := (List.range levels).map fun l =>
      config.outerRadius * ofNat (l + 1) / ofNat levels,
    spokes := axes.mapIdx fun i _ => .polar config.center config.outerRadius (axisAngle i n),
    vertices := axes.mapIdx fun i axis => vertex config n i axis.value,
    labels := axes.mapIdx fun i axis => axisLabel config n i axis.label,
    industryRadius := config.radiusOf config.industryAverage,
    topQuartileRadius := config.radiusOf config.topQuartile }

end geometry

/-! ## Drawing -/

/-- The name of an anchor. -/
def Anchor.name : Anchor → String
  | start => "start"
  | middle => "middle"
  | finish => "end"

/-- The two coordinates of a point in a path. -/
def pointText (p : Point Float) : String :=
  coordinate p.x ++ " " ++ coordinate p.y

/-- The closed path through the corners; empty if there are none. -/
def polygonPath (vertices : List (Vertex Float)) : String :=
  if vertices.isEmpty then ""
  else "M" ++ String.intercalate " L" (vertices.map fun v => pointText v.point) ++ " Z"

/-- A circle around the centre. -/
def circleAround (center : Point Float) (styleClass : String) (radius : Float)
    (stroke width : String) (more : List (Attribute × String)) : Markup :=
  .leaf .circle ([(.styleClass, styleClass), (.cx, coordinate center.x), (.cy, coordinate center.y),
    (.r, coordinate radius), (.fill, "none"), (.stroke, stroke), (.strokeWidth, width)] ++ more)

/-- A line from the centre to the end of an axis. -/
def spokeLine (center spoke : Point Float) : Markup :=
  .leaf .line [(.styleClass, "radar-spoke"), (.x1, coordinate center.x), (.y1, coordinate center.y),
    (.x2, coordinate spoke.x), (.y2, coordinate spoke.y), (.stroke, "#e5e7eb"),
    (.strokeWidth, "1")]

/-- The filled polygon of the scores. -/
def scoreArea (vertices : List (Vertex Float)) (color : String) : Markup :=
  if vertices.isEmpty then .empty
  else
    .leaf .path [(.styleClass, "radar-score"), (.d, polygonPath vertices), (.fill, color),
      (.fillOpacity, "0.18"), (.stroke, color), (.strokeWidth, "2")]

/-- The point of a score, in the colour of its band. -/
def scorePoint (thresholds : Thresholds) (v : Vertex Float) : Markup :=
  let band := thresholds.classify v.score
  .element .circle [(.styleClass, "radar-point " ++ band.styleClass), (.cx, coordinate v.point.x),
    (.cy, coordinate v.point.y), (.r, "4.5"), (.fill, band.color), (.stroke, "#ffffff"),
    (.strokeWidth, "1.5")] (.plain .title (.text (roundedText v.score)))

/-- The label of an axis. -/
def labelText (l : Label Float) : Markup :=
  .element .text [(.styleClass, "radar-label"), (.x, coordinate l.point.x),
    (.y, coordinate l.point.y), (.textAnchor, l.anchor.name), (.dominantBaseline, "middle"),
    (.fontSize, "11"), (.fill, "#374151")] (.text l.text)

/-- One entry of the legend: a dashed line and what it stands for. -/
def legendEntry (x1 x2 textX y stroke dashes label : String) : Markup :=
  .leaf .line [(.x1, x1), (.y1, y), (.x2, x2), (.y2, y), (.stroke, stroke),
    (.strokeDasharray, dashes)] ++
  .element .text [(.x, textX), (.y, y), (.dominantBaseline, "middle")] (.text label)

/-- The legend of the two reference circles. -/
def legend (config : Config Float) : Markup :=
  let y := coordinate (config.size + 16.0)
  let half := config.size / 2.0
  .element .g [(.styleClass, "radar-legend"), (.fontSize, "10"), (.fill, "#6b7280")]
    (legendEntry "10" "30" "34" y "#6b7280" "6 4"
      ("Industry average (" ++ roundedText (Scalar.clampScore config.industryAverage) ++ ")") ++
    legendEntry (coordinate half) (coordinate (half + 20.0)) (coordinate (half + 24.0)) y
      "#28a745" "2 3"
      ("Top quartile (" ++ roundedText (Scalar.clampScore config.topQuartile) ++ ")"))

/-- The chart of the given scores. -/
def draw (axes : List (Datum Float)) (config : Config Float) (thresholds : Thresholds)
    (color : String) : Markup :=
  let g := geometry axes config
  canvas config.size (config.size + 28.0) "radar-chart" "Radar chart"
    (.concat (g.rings.map fun r => circleAround g.center "radar-ring" r "#e5e7eb" "1" []) ++
    .concat (g.spokes.map (spokeLine g.center)) ++
    circleAround g.center "radar-ref radar-ref-industry" g.industryRadius "#6b7280" "1.5"
      [(.strokeDasharray, "6 4")] ++
    circleAround g.center "radar-ref radar-ref-top-quartile" g.topQuartileRadius "#28a745" "1.5"
      [(.strokeDasharray, "2 3")] ++
    scoreArea g.vertices color ++
    .concat (g.vertices.map (scorePoint thresholds)) ++
    .concat (g.labels.map labelText) ++
    legend config)

end DiagnosticReport.Radar
