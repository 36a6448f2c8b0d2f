import DiagnosticReport.Chart.Drawing

/-!
# Timeline

Phases get blocks of equal width along a track between a start and an end marker, in two colours
by turns.
-/

namespace DiagnosticReport.Timeline

/-- A phase, with a line below its label if there is one. -/
structure Phase where
  label : String
  caption : Option String := none

/-- The measures of a chart. -/
structure Config (α : Type) where
  width : α
  height : α
  /-- Room for the markers on both sides. -/
  padding : α

/-- The block of a phase. -/
structure Block (α : Type) where
  index : Nat
  phase : Phase
  x : α
  width : α

section geometry

variable {α : Type} [Scalar α]

open Scalar

/-- The measures of a canvas; widths below 200 are taken for 720. -/
@[specialize] def Config.withWidth (width : α) : Config α :=
  let width := if isFinite width && !less width 200.0 then width else 720.0
  { width, height := 120.0, padding := 28.0 }

/-- The height at which the track lies. -/
@[specialize] def Config.trackY (config : Config α) : α :=
  config.height * 0.4

/-- The length of the track. -/
@[specialize] def Config.trackWidth (config : Config α) : α :=
  larger (config.width - 2.0 * config.padding) 0.0

/-- The middle of a block. -/
@[specialize] def Block.centerX (block : Block α) : α :=
  block.x + block.width / 2.0

/-- The blocks of the phases. -/
@[specialize] def blocks (phases : List Phase) (config : Config α) : List (Block α) :=
  let width := config.trackWidth / ofNat phases.length
  phases.mapIdx fun i phase =>
    { index := i, phase, x := config.padding + ofNat i * width, width }

end geometry

/-! ## Drawing -/

/-- The wording and colours of a chart. -/
structure Style where
  startLabel : String := "Start"
  endLabel : String := "Target"
  primaryColor : String
  accentColor : String

/-- The block of a phase with its texts. -/
def drawBlock (trackY : Float) (style : Style) (block : Block Float) : Markup :=
  let fill := if block.index % 2 = 0 then style.primaryColor else style.accentColor
  let center := coordinate block.centerX
  .styled .g "timeline-phase"
    (.leaf .rect [(.x, coordinate block.x), (.y, coordinate (trackY - 9.0)),
      (.width, coordinate block.width), (.height, "18"), (.rx, "4"), (.fill, fill),
      (.stroke, "#ffffff"), (.strokeWidth, "2")] ++
    centeredText center (coordinate (trackY + 30.0)) "12" "#111827" block.phase.label
      [(.fontWeight, "600")] ++
    .optional (block.phase.caption.map fun caption =>
      centeredText center (coordinate (trackY + 46.0)) "10" "#6b7280" caption []))

/-- A marker at one end of the track. -/
def marker (trackY : Float) (color styleClass : String) (x : Float) (label : String) : Markup :=
  .leaf .circle [(.styleClass, styleClass), (.cx, coordinate x), (.cy, coordinate trackY),
    (.r, "8"), (.fill, "#ffffff"), (.stroke, color), (.strokeWidth, "3")] ++
  centeredText (coordinate x) (coordinate (trackY - 16.0)) "10" "#6b7280" label []

/-- The chart of the given phases. -/
def draw (phases : List Phase) (config : Config Float) (style : Style) : Markup :=
  let trackY := config.trackY
  let finish := config.width - config.padding
  let track : Markup := .leaf .line [(.styleClass, "timeline-track"),
    (.x1, coordinate config.padding), (.y1, coordinate trackY), (.x2, coordinate finish),
    (.y2, coordinate trackY), (.stroke, "#d1d5db"), (.strokeWidth, "4"), (.strokeLinecap, "round")]
  canvas config.width config.height "timeline-chart" "Timeline"
    (track ++
    .concat ((blocks phases config).map (drawBlock trackY style)) ++
    marker trackY style.primaryColor "timeline-start" config.padding style.startLabel ++
    marker trackY style.primaryColor "timeline-end" finish style.endLabel)

end DiagnosticReport.Timeline
