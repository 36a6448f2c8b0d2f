import DiagnosticReport.Chart.Drawing
import DiagnosticReport.Chart.Plane

/-!
# Donut chart

Each positive value gets a segment of the ring, in the order of the values, from twelve o'clock
clockwise. A segment that goes all around is drawn as two slices, since a single arc would end
where it starts.
-/

namespace DiagnosticReport.Donut

/-- The colours of segments without one of their own, in turn. -/
def palette : List String :=
  ["#212653", "#969423", "#0d6efd", "#28a745", "#ffc107", "#dc3545", "#6f42c1", "#20c997"]

/-- A value of a chart. -/
structure Slice (α : Type) extends Datum α where
  color : Option String := none

/-- The measures of a chart. -/
structure Config (α : Type) where
  size : α
  outerRadius : α
  innerRadius : α

/-- A part of the ring between two angles, in degrees. -/
structure Arc (α : Type) where
  start : α
  finish : α
  /-- The part is more than half of the ring. -/
  isLarge : Bool

/-- A segment of the ring. -/
structure Segment (α : Type) where
  label : String
  value : α
  /-- Share of the total, in per cent. -/
  percent : α
  startAngle : α
  endAngle : α
  sweep : α
  color : String
  /-- The parts that are drawn. -/
  arcs : List (Arc α)

section geometry

variable {α : Type} [Scalar α]

open Scalar

/-- The measures of a canvas; sizes below 60 are taken for 220. -/
@[specialize] def Config.withSize (size : α) : Config α :=
  let size := if isFinite size && !less size 60.0 then size else 220.0
  { size, outerRadius := size * 0.45, innerRadius := size * 0.28 }

/-- The part of the ring between two angles. -/
@[specialize] def arc (start finish : α) : Arc α :=
  ⟨start, finish, less 180.0 (finish - start)⟩

/-- The parts that a segment is drawn as. -/
@[specialize] def arcs (start sweep finish : α) : List (Arc α) :=
  if less sweep 359.999 then [arc start finish]
  else [arc start (start + 180.0), arc (start + 180.0) finish]

/-- The colour of the segment at a position. -/
def colorAt (i : Nat) (color : Option String) : String :=
  color.getD (palette[i % palette.length]?.getD "")

/-- The segment of a value that starts at an angle. -/
@[specialize] def segment (total angle : α) (i : Nat) (value : α) (slice : Slice α) : Segment α :=
  let sweep := value / total * 360.0
  let finish := angle + sweep
  { label := slice.label, value, percent := value / total * 100.0, startAngle := angle,
    endAngle := finish, sweep, color := colorAt i slice.color, arcs := arcs angle sweep finish }

/-- The segments of values from a position on, the first of which starts at an angle. -/
@[specialize] def segmentsFrom (limit total angle : α) (i : Nat) :
    List (Slice α) → List (Segment α)
  | [] => []
  | slice :: rest =>
    let value := sanitize slice.value limit
    if less 0.0 value then
      let s := segment total angle i value slice
      s :: segmentsFrom limit total s.endAngle (i + 1) rest
    else segmentsFrom limit total angle (i + 1) rest

/-- The segments of a series. Values count up to `limit`; there are no segments if the total is no
positive finite number. -/
@[specialize] def segments (limit : α) (data : List (Slice α)) : List (Segment α) :=
  let total := sum (data.map fun slice => sanitize slice.value limit)
  if isFinite total && less 0.0 total then segmentsFrom limit total (-90.0) 0 data else []

end geometry

/-! ## Drawing -/

/-- Degrees in radians. -/
def radians (degrees : Float) : Float :=
  degrees * (3.141592653589793 / 180.0)

/-- The closed path of a part of the ring: along the outer circle and back along the inner one. -/
def arcPath (center : Point Float) (outer inner : Float) (a : Arc Float) : String :=
  let corner (radius angle : Float) : String :=
    let p := Point.polar center radius (radians angle)
    coordinate p.x ++ " " ++ coordinate p.y
  let large := if a.isLarge then "1" else "0"
  let along (radius : Float) (direction : String) : String :=
    " A " ++ coordinate radius ++ " " ++ coordinate radius ++ " 0 " ++ large ++ " " ++ direction ++
      " "
  "M " ++ corner outer a.start ++ along outer "1" ++ corner outer a.finish ++
    " L " ++ corner inner a.finish ++ along inner "0" ++ corner inner a.start ++ " Z"

/-- The middle of the canvas. -/
def Config.center (config : Config Float) : Point Float :=
  ⟨config.size / 2.0, config.size / 2.0⟩

/-- The path of a segment. -/
def segmentPath (config : Config Float) (s : Segment Float) : String :=
  String.intercalate " "
    (s.arcs.map (arcPath config.center (nonNegative config.outerRadius)
      (nonNegative config.innerRadius)))

/-- The grey ring of a chart without segments. -/
def emptyRing (config : Config Float) : Markup :=
  .leaf .circle [(.styleClass, "donut-empty"), (.cx, coordinate config.center.x),
    (.cy, coordinate config.center.y),
    (.r, coordinate ((config.outerRadius + config.innerRadius) / 2.0)), (.fill, "none"),
    (.stroke, "#e5e7eb"),
    (.strokeWidth, coordinate (nonNegative (config.outerRadius - config.innerRadius)))]

/-- A segment of the ring with its title. -/
def drawSegment (config : Config Float) (s : Segment Float) : Markup :=
  .element .path [(.styleClass, "donut-segment"), (.d, segmentPath config s), (.fill, s.color),
    (.stroke, "#ffffff"), (.strokeWidth, "1")]
    (.plain .title (.text (s.label ++ ": " ++ coordinate s.percent ++ "%")))

/-- The text in the middle of the ring. -/
def centerText (config : Config Float) (text : String) : Markup :=
  .element .text [(.styleClass, "donut-center"), (.x, coordinate config.center.x),
    (.y, coordinate config.center.y), (.textAnchor, "middle"), (.dominantBaseline, "middle"),
    (.fontSize, "20"), (.fontWeight, "700"), (.fill, "#111827")] (.text text)

/-- The row of the legend for the segment at a position. -/
def legendRow (config : Config Float) (i : Nat) (s : Segment Float) : Markup :=
  let y := 10.0 + Float.ofNat i * 18.0
  .leaf .rect [(.x, coordinate (config.size + 10.0)), (.y, coordinate y), (.width, "10"),
    (.height, "10"), (.fill, s.color)] ++
  .element .text [(.x, coordinate (config.size + 26.0)), (.y, coordinate (y + 5.0)),
    (.fontSize, "11"), (.dominantBaseline, "middle"), (.fill, "#374151")]
    (.text (s.label ++ " (" ++ roundedText s.percent ++ "%)"))

/-- The segments of a series of floats. -/
def floatSegments (data : List (Slice Float)) : List (Segment Float) :=
  segments largestFloat data

/-- The chart of the given values, with a text in the middle if there is one. -/
def draw (data : List (Slice Float)) (config : Config Float) (center : Option String) : Markup :=
  let segments := floatSegments data
  let rows := Float.ofNat (max segments.length 1)
  let height := Scalar.larger config.size (rows * 18.0 + 10.0)
  canvas (config.size + 180.0) height "donut-chart" "Donut chart"
    ((if segments.isEmpty then emptyRing config else .empty) ++
    .concat (segments.map (drawSegment config)) ++
    .optional (center.map (centerText config)) ++
    .concat (segments.mapIdx (legendRow config)))

end DiagnosticReport.Donut
