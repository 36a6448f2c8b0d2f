import DiagnosticReport.Chart.Bar
import DiagnosticReport.Chart.Donut
import DiagnosticReport.Chart.Radar
import DiagnosticReport.Chart.Waterfall
import DiagnosticReport.Proofs.Binary64.Scale

/-!
# Numbers off the scale

A chart takes each number of its series for its place on the scale and for nothing else. A series is
therefore compared with the one that has all its numbers on the scale already: both have the same
geometry and the same drawing. So two series have one chart as soon as their numbers have the same
places.
-/

namespace DiagnosticReport

open Binary64

/-! ## Series on the scale -/

/-- The number of a series on the scale from 0 to 100. -/
def Datum.clamped (datum : Datum Float) : Datum Float :=
  { datum with value := Scalar.clampScore datum.value }

/-- The score of an item and its own target, if it has one, on the scale from 0 to 100. -/
def Waterfall.Item.clamped (item : Waterfall.Item Float) : Waterfall.Item Float :=
  { item with current := Scalar.clampScore item.current,
              target := item.target.map Scalar.clampScore }

/-- The value of a slice without a sign. -/
def Donut.Slice.clamped (slice : Donut.Slice Float) : Donut.Slice Float :=
  { slice with value := nonNegative slice.value }

/-- A clamped score stays as it is. -/
theorem clampScore_clampScore (x : Float) :
    Scalar.clampScore (Scalar.clampScore x) = Scalar.clampScore x :=
  sanitize_sanitize (by decide) (by decide)

/-- A number made valid stays as it is. -/
theorem nonNegative_nonNegative (x : Float) : nonNegative (nonNegative x) = nonNegative x :=
  sanitize_sanitize (by decide +kernel) (by decide +kernel)

/-- What depends on members by their places on a scale alone is the same for members that have one
place. -/
theorem eq_of_place_eq {σ τ : Type} {f : List σ → τ} {place : σ → σ}
    (h : ∀ series, f (series.map place) = f series) {s t : σ} (hst : place s = place t)
    (before after : List σ) : f (before ++ s :: after) = f (before ++ t :: after) := by
  rw [← h (before ++ s :: after), ← h (before ++ t :: after), List.map_append, List.map_append,
    List.map_cons, List.map_cons, hst]

/-- A function that sees places only draws a series and its places alike. -/
theorem mapIdx_map_place {σ τ : Type} (place : σ → σ) {f : Nat → σ → τ}
    (h : ∀ i s, f i (place s) = f i s) (series : List σ) :
    (series.map place).mapIdx f = series.mapIdx f :=
  List.ext_getElem (by simp) fun i _ _ => by simp [h]

/-! ## Charts -/

namespace Radar

theorem geometry_clamped (axes : List (Datum Float)) :
    geometry (axes.map Datum.clamped) = geometry axes := by
  funext config
  have hvertices : (axes.map Datum.clamped).mapIdx
      (fun i axis => vertex config axes.length i axis.value) =
        axes.mapIdx fun i axis => vertex config axes.length i axis.value := by
    refine mapIdx_map_place Datum.clamped (fun i axis => ?_) axes
    simp only [vertex, Datum.clamped, clampScore_clampScore]
  have hspokes : (axes.map Datum.clamped).mapIdx
      (fun i _ => Point.polar config.center config.outerRadius (axisAngle i axes.length)) =
        axes.mapIdx fun i _ =>
          Point.polar config.center config.outerRadius (axisAngle i axes.length) :=
    mapIdx_map_place Datum.clamped (fun _ _ => rfl) axes
  have hlabels : (axes.map Datum.clamped).mapIdx
      (fun i axis => axisLabel config axes.length i axis.label) =
        axes.mapIdx fun i axis => axisLabel config axes.length i axis.label :=
    mapIdx_map_place Datum.clamped (fun _ _ => rfl) axes
  simp only [geometry, List.length_map, hvertices, hspokes, hlabels]

theorem draw_clamped (axes : List (Datum Float)) :
    draw (axes.map Datum.clamped) = draw axes := by
  funext config thresholds color
  rw [draw, draw, geometry_clamped]

end Radar

namespace Bar

theorem geometry_clamped (data : List (Datum Float)) :
    geometry (data.map Datum.clamped) = geometry data := by
  funext config
  refine mapIdx_map_place Datum.clamped (fun i datum => ?_) data
  simp only [bar, Datum.clamped, clampScore_clampScore]

theorem draw_clamped (data : List (Datum Float)) :
    draw (data.map Datum.clamped) = draw data := by
  funext config thresholds
  rw [draw, draw, geometry_clamped]

end Bar

namespace Waterfall

theorem score_clamped (item : Item Float) : item.clamped.score = item.score :=
  clampScore_clampScore item.current

theorem goal_clamped (default : Float) (item : Item Float) :
    item.clamped.goal default = item.goal default := by
  obtain ⟨label, current, target⟩ := item
  cases target with
  | none => rfl
  | some target => exact clampScore_clampScore target

theorem shortfall_clamped (default : Float) (item : Item Float) :
    item.clamped.shortfall default = item.shortfall default := by
  rw [Item.shortfall, Item.shortfall, score_clamped, goal_clamped]

theorem stepsFrom_clamped (default gap total level : Float) (items : List (Item Float)) :
    stepsFrom default gap total level (items.map Item.clamped) =
      stepsFrom default gap total level items := by
  induction items generalizing level with
  | nil => rfl
  | cons item items ih =>
    rw [List.map_cons, stepsFrom, stepsFrom, shortfall_clamped]
    exact congrArg (_ :: ·) (ih _)

theorem geometry_clamped (items : List (Item Float)) :
    geometry (items.map Item.clamped) = geometry items := by
  funext config
  simp only [geometry, List.isEmpty_map, List.length_map, List.map_map, Function.comp_def,
    score_clamped, goal_clamped, shortfall_clamped, stepsFrom_clamped]

theorem draw_clamped (items : List (Item Float)) :
    draw (items.map Item.clamped) = draw items := by
  funext config color
  rw [draw, draw, geometry_clamped]

end Waterfall

namespace Donut

theorem segmentsFrom_clamped (total angle : Float) (i : Nat) (data : List (Slice Float)) :
    segmentsFrom largestFloat total angle i (data.map Slice.clamped) =
      segmentsFrom largestFloat total angle i data := by
  induction data generalizing angle i with
  | nil => rfl
  | cons slice data ih =>
    have hvalue : Scalar.sanitize slice.clamped.value largestFloat =
        Scalar.sanitize slice.value largestFloat := nonNegative_nonNegative slice.value
    simp only [List.map_cons, segmentsFrom, hvalue, ih]
    rfl

theorem floatSegments_clamped (data : List (Slice Float)) :
    floatSegments (data.map Slice.clamped) = floatSegments data := by
  have htotal : (data.map Slice.clamped).map
      (fun slice => Scalar.sanitize slice.value largestFloat) =
        data.map fun slice => Scalar.sanitize slice.value largestFloat := by
    rw [List.map_map]
    exact List.map_congr_left fun slice _ => nonNegative_nonNegative slice.value
  simp only [floatSegments, segments, htotal, segmentsFrom_clamped]

theorem draw_clamped (data : List (Slice Float)) :
    draw (data.map Slice.clamped) = draw data := by
  funext config center
  rw [draw, draw, floatSegments_clamped]

end Donut

/-! ## Numbers that are not valid -/

/-- A score that is no valid number is clamped to what zero is. -/
theorem clampScore_of_invalid {x : Float} (h : isFinite x = false ∨ less x 0.0) :
    Scalar.clampScore x = Scalar.clampScore 0.0 := by
  have hzero : Scalar.clampScore 0.0 = 0.0 := sanitize_zero (by decide) (by decide)
  rw [hzero]
  exact sanitize_of_invalid (by decide) (by decide) h

/-- A value that is no valid number counts for what zero does. -/
theorem nonNegative_of_invalid {x : Float} (h : isFinite x = false ∨ less x 0.0) :
    nonNegative x = nonNegative 0.0 := by
  have hbound : isFinite largestFloat ∧ 0 ≤ rank largestFloat := by decide +kernel
  have hzero : nonNegative 0.0 = 0.0 := sanitize_zero hbound.1 hbound.2
  rw [hzero]
  exact sanitize_of_invalid hbound.1 hbound.2 h

/-- **Invalid numbers count as 0.** The geometry and the drawing of a chart, for all measures and
colours, are those of the series whose numbers have been moved onto the scale. In particular a
number that is not finite, or that is below 0, makes the chart that 0 makes in its place. -/
theorem invalid_numbers_count_as_zero :
    (∀ axes : List (Datum Float), Radar.geometry (axes.map .clamped) = Radar.geometry axes ∧
      Radar.draw (axes.map .clamped) = Radar.draw axes) ∧
    (∀ data : List (Datum Float), Bar.geometry (data.map .clamped) = Bar.geometry data ∧
      Bar.draw (data.map .clamped) = Bar.draw data) ∧
    (∀ items : List (Waterfall.Item Float),
      Waterfall.geometry (items.map .clamped) = Waterfall.geometry items ∧
      Waterfall.draw (items.map .clamped) = Waterfall.draw items) ∧
    (∀ data : List (Donut.Slice Float),
      Donut.floatSegments (data.map .clamped) = Donut.floatSegments data ∧
      Donut.draw (data.map .clamped) = Donut.draw data) ∧
    ∀ x : Float, isFinite x = false ∨ less x 0.0 → ∀ label : String,
      (∀ before after : List (Datum Float),
        Radar.geometry (before ++ ⟨label, x⟩ :: after) =
          Radar.geometry (before ++ ⟨label, 0.0⟩ :: after) ∧
        Radar.draw (before ++ ⟨label, x⟩ :: after) =
          Radar.draw (before ++ ⟨label, 0.0⟩ :: after) ∧
        Bar.geometry (before ++ ⟨label, x⟩ :: after) =
          Bar.geometry (before ++ ⟨label, 0.0⟩ :: after) ∧
        Bar.draw (before ++ ⟨label, x⟩ :: after) = Bar.draw (before ++ ⟨label, 0.0⟩ :: after)) ∧
      (∀ (before after : List (Waterfall.Item Float)) (target : Option Float),
        Waterfall.geometry (before ++ ⟨label, x, target⟩ :: after) =
          Waterfall.geometry (before ++ ⟨label, 0.0, target⟩ :: after) ∧
        Waterfall.draw (before ++ ⟨label, x, target⟩ :: after) =
          Waterfall.draw (before ++ ⟨label, 0.0, target⟩ :: after)) ∧
      (∀ (before after : List (Waterfall.Item Float)) (current : Float),
        Waterfall.geometry (before ++ ⟨label, current, some x⟩ :: after) =
          Waterfall.geometry (before ++ ⟨label, current, some 0.0⟩ :: after) ∧
        Waterfall.draw (before ++ ⟨label, current, some x⟩ :: after) =
          Waterfall.draw (before ++ ⟨label, current, some 0.0⟩ :: after)) ∧
      (∀ (before after : List (Donut.Slice Float)) (color : Option String),
        Donut.floatSegments (before ++ ⟨⟨label, x⟩, color⟩ :: after) =
          Donut.floatSegments (before ++ ⟨⟨label, 0.0⟩, color⟩ :: after) ∧
        Donut.draw (before ++ ⟨⟨label, x⟩, color⟩ :: after) =
          Donut.draw (before ++ ⟨⟨label, 0.0⟩, color⟩ :: after)) := by
  refine ⟨fun axes => ⟨Radar.geometry_clamped axes, Radar.draw_clamped axes⟩,
    fun data => ⟨Bar.geometry_clamped data, Bar.draw_clamped data⟩,
    fun items => ⟨Waterfall.geometry_clamped items, Waterfall.draw_clamped items⟩,
    fun data => ⟨Donut.floatSegments_clamped data, Donut.draw_clamped data⟩, fun x h label => ?_⟩
  have hscore := clampScore_of_invalid h
  have hvalue := nonNegative_of_invalid h
  refine ⟨fun before after => ?_, fun before after target => ?_, fun before after current => ?_,
    fun before after color => ?_⟩
  · have hdatum : Datum.clamped ⟨label, x⟩ = Datum.clamped ⟨label, 0.0⟩ :=
      congrArg (Datum.mk label) hscore
    exact ⟨eq_of_place_eq Radar.geometry_clamped hdatum before after,
      eq_of_place_eq Radar.draw_clamped hdatum before after,
      eq_of_place_eq Bar.geometry_clamped hdatum before after,
      eq_of_place_eq Bar.draw_clamped hdatum before after⟩
  · have hitem : Waterfall.Item.clamped ⟨label, x, target⟩ =
        Waterfall.Item.clamped ⟨label, 0.0, target⟩ :=
      congrArg (Waterfall.Item.mk label · (target.map Scalar.clampScore)) hscore
    exact ⟨eq_of_place_eq Waterfall.geometry_clamped hitem before after,
      eq_of_place_eq Waterfall.draw_clamped hitem before after⟩
  · have hitem : Waterfall.Item.clamped ⟨label, current, some x⟩ =
        Waterfall.Item.clamped ⟨label, current, some 0.0⟩ :=
      congrArg (fun goal => Waterfall.Item.mk label (Scalar.clampScore current) (some goal)) hscore
    exact ⟨eq_of_place_eq Waterfall.geometry_clamped hitem before after,
      eq_of_place_eq Waterfall.draw_clamped hitem before after⟩
  · have hslice : Donut.Slice.clamped ⟨⟨label, x⟩, color⟩ =
        Donut.Slice.clamped ⟨⟨label, 0.0⟩, color⟩ :=
      congrArg (fun value => Donut.Slice.mk ⟨label, value⟩ color) hvalue
    exact ⟨eq_of_place_eq Donut.floatSegments_clamped hslice before after,
      eq_of_place_eq Donut.draw_clamped hslice before after⟩

/-- No number, an infinity and -3 make the charts that 0 makes. -/
theorem invalid_numbers_count_as_zero_of_kinds :
    (isFinite (0.0 / 0.0) = false ∧
      Radar.draw [⟨"A", 80.0⟩, ⟨"B", 0.0 / 0.0⟩] = Radar.draw [⟨"A", 80.0⟩, ⟨"B", 0.0⟩]) ∧
    (isFinite (1.0 / 0.0) = false ∧
      Waterfall.draw [⟨"A", 80.0, none⟩, ⟨"B", 60.0, some (1.0 / 0.0)⟩] =
        Waterfall.draw [⟨"A", 80.0, none⟩, ⟨"B", 60.0, some 0.0⟩]) ∧
    (less (-3.0) 0.0 ∧
      Donut.draw [⟨⟨"A", 2.0⟩, none⟩, ⟨⟨"B", -3.0⟩, none⟩] =
        Donut.draw [⟨⟨"A", 2.0⟩, none⟩, ⟨⟨"B", 0.0⟩, none⟩]) := by
  obtain ⟨-, -, -, -, hinvalid⟩ := invalid_numbers_count_as_zero
  have hnan : isFinite (0.0 / 0.0) = false := by decide
  have hinfinite : isFinite (1.0 / 0.0) = false := by decide
  have hnegative : less (-3.0) 0.0 := by decide
  obtain ⟨hdatum, -, -, -⟩ := hinvalid _ (.inl hnan) "B"
  obtain ⟨-, -, htarget, -⟩ := hinvalid _ (.inl hinfinite) "B"
  obtain ⟨-, -, -, hslice⟩ := hinvalid _ (.inr hnegative) "B"
  exact ⟨⟨hnan, (hdatum [⟨"A", 80.0⟩] []).2.1⟩,
    ⟨hinfinite, (htarget [⟨"A", 80.0, none⟩] [] 60.0).2⟩,
    hnegative, (hslice [⟨⟨"A", 2.0⟩, none⟩] [] none).2⟩

end DiagnosticReport
