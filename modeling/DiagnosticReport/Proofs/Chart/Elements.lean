import DiagnosticReport.Chart.Bar
import DiagnosticReport.Chart.Donut
import DiagnosticReport.Chart.Radar
import DiagnosticReport.Chart.Timeline
import DiagnosticReport.Chart.Waterfall
import DiagnosticReport.Proofs.Markup.Elements

/-!
# The elements of charts

A chart is one canvas with lines, shapes, texts and their titles on it, whatever numbers and labels
it is drawn from.
-/

namespace DiagnosticReport

/-- The elements of the drawings inside a section. The others make up the frame around them. -/
def Tag.isDrawn : Tag → Bool
  | block | code | footer | h1 | h2 | header => false
  | _ => true

/-- The elements of charts. -/
def Tag.isCharted : Tag → Bool
  | circle | g | line | path | rect | svg | text | title => true
  | _ => false

theorem Tag.isDrawn_of_isCharted {tag : Tag} (h : tag.isCharted) : tag.isDrawn := by
  cases tag <;> first | rfl | cases h

theorem Markup.Uses.isDrawn {m : Markup} (h : m.Uses Tag.isCharted) : m.Uses Tag.isDrawn :=
  h.mono fun _ => Tag.isDrawn_of_isCharted

/-- A canvas holds what is drawn on it. -/
@[simp] theorem uses_canvas {p : Tag → Bool} {width height : Float} {kind title : String}
    {body : Markup} : (canvas width height kind title body).Uses p ↔ p .svg ∧ body.Uses p := Iff.rfl

@[simp] theorem uses_centeredText {p : Tag → Bool} {x y size fill text : String}
    {more : List (Attribute × String)} :
    (centeredText x y size fill text more).Uses p ↔ p .text := by
  simp [centeredText]

theorem Bar.uses_draw (data : List (Datum Float)) (config : Config Float)
    (thresholds : Thresholds) : (draw data config thresholds).Uses Tag.isCharted := by
  have hbar : ∀ bar, (drawBar config.chartWidth thresholds bar).Uses Tag.isCharted := by
    intro bar
    simp [drawBar, Tag.isCharted]
  simp [draw, hbar, Tag.isCharted]

theorem Donut.uses_draw (data : List (Slice Float)) (config : Config Float)
    (center : Option String) : (draw data config center).Uses Tag.isCharted := by
  have hsegment : ∀ s, (drawSegment config s).Uses Tag.isCharted := by
    intro s
    simp [drawSegment, Tag.isCharted]
  have hrow : ∀ i s, (legendRow config i s).Uses Tag.isCharted := by
    intro i s
    simp [legendRow, Tag.isCharted]
  simp [draw, emptyRing, centerText, hsegment, hrow, Tag.isCharted]

theorem Radar.uses_draw (axes : List (Datum Float)) (config : Config Float)
    (thresholds : Thresholds) (color : String) :
    (draw axes config thresholds color).Uses Tag.isCharted := by
  have harea : ∀ vertices, (scoreArea vertices color).Uses Tag.isCharted := by
    intro vertices
    simp [scoreArea, Tag.isCharted]
  have hpoint : ∀ v, (scorePoint thresholds v).Uses Tag.isCharted := by
    intro v
    simp [scorePoint, Tag.isCharted]
  simp [draw, circleAround, spokeLine, labelText, legend, legendEntry, harea, hpoint, Tag.isCharted]

theorem Timeline.uses_draw (phases : List Phase) (config : Config Float) (style : Style) :
    (draw phases config style).Uses Tag.isCharted := by
  have hblock : ∀ block, (drawBlock config.trackY style block).Uses Tag.isCharted := by
    intro block
    simp [drawBlock, Tag.isCharted]
  simp [draw, marker, hblock, Tag.isCharted]

theorem Waterfall.uses_draw (items : List (Item Float)) (config : Config Float) (color : String) :
    (draw items config color).Uses Tag.isCharted := by
  have hcolumn : ∀ columnWidth barWidth i step,
      (stepColumn config columnWidth barWidth i step).Uses Tag.isCharted := by
    intro columnWidth barWidth i step
    simp [stepColumn, Tag.isCharted]
  simp [draw, nowColumn, acrossLine, targetLine, hcolumn, Tag.isCharted]

end DiagnosticReport
