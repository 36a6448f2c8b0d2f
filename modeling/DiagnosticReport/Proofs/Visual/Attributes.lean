import DiagnosticReport.Proofs.Chart.Elements
import DiagnosticReport.Proofs.Markup.Attributes
import DiagnosticReport.Visual.Registry

/-!
# The attributes of visuals

All attributes of the built-in visuals hold plain texts (numbers, style classes and fixed words),
but for the colours of shapes and the names of charts.
-/

namespace DiagnosticReport

/-! ## Charts -/

@[simp] theorem Band.isPlain_styleClass (band : Band) : Text.IsPlain band.styleClass := by
  cases band <;> decide

@[simp] theorem hasPlainAttributes_canvas {width height : Float} {kind title : String}
    {body : Markup} : (canvas width height kind title body).HasPlainAttributes ↔
      Text.IsPlain kind ∧ body.HasPlainAttributes := by
  simp +decide [canvas, Attribute.holdsText]

@[simp] theorem hasPlainAttributes_centeredText {x y size fill text : String}
    {more : List (Attribute × String)} :
    (centeredText x y size fill text more).HasPlainAttributes ↔
      Text.IsPlain x ∧ Text.IsPlain y ∧ Text.IsPlain size ∧ Markup.ArePlain more := by
  simp +decide [centeredText, Attribute.holdsText]

theorem Bar.hasPlainAttributes_draw (data : List (Datum Float)) (config : Config Float)
    (thresholds : Thresholds) : (draw data config thresholds).HasPlainAttributes := by
  have hbar : ∀ bar, (drawBar config.chartWidth thresholds bar).HasPlainAttributes := by
    intro bar
    simp +decide [drawBar, Attribute.holdsText]
  simp +decide [draw, hbar]

/-- The path of a segment has no character that is escaped. -/
theorem Donut.isPlain_segmentPath (config : Config Float) (s : Segment Float) :
    Text.IsPlain (segmentPath config s) := by
  refine Text.isPlain_intercalate (by decide) (List.forall_mem_map.2 fun a _ => ?_)
  have hlarge : Text.IsPlain (if a.isLarge then "1" else "0") := by
    split <;> decide
  simp +decide [arcPath, hlarge]

theorem Donut.hasPlainAttributes_draw (data : List (Slice Float)) (config : Config Float)
    (center : Option String) : (draw data config center).HasPlainAttributes := by
  have hsegment : ∀ s, (drawSegment config s).HasPlainAttributes := by
    intro s
    simp +decide [drawSegment, isPlain_segmentPath, Attribute.holdsText]
  have hrow : ∀ i s, (legendRow config i s).HasPlainAttributes := by
    intro i s
    simp +decide [legendRow, Attribute.holdsText]
  simp +decide [draw, emptyRing, centerText, hsegment, hrow, Attribute.holdsText]

/-- The path through the corners has no character that is escaped. -/
theorem Radar.isPlain_polygonPath (vertices : List (Vertex Float)) :
    Text.IsPlain (polygonPath vertices) := by
  have hcorners : Text.IsPlain
      (String.intercalate " L" (vertices.map fun v => pointText v.point)) := by
    refine Text.isPlain_intercalate (by decide) (List.forall_mem_map.2 fun v _ => ?_)
    simp +decide [pointText]
  unfold polygonPath
  split
  · decide
  · simp +decide [hcorners]

theorem Radar.hasPlainAttributes_draw (axes : List (Datum Float)) (config : Config Float)
    (thresholds : Thresholds) (color : String) :
    (draw axes config thresholds color).HasPlainAttributes := by
  have harea : ∀ vertices, (scoreArea vertices color).HasPlainAttributes := by
    intro vertices
    simp +decide [scoreArea, isPlain_polygonPath, Attribute.holdsText]
  have hpoint : ∀ v, (scorePoint thresholds v).HasPlainAttributes := by
    intro v
    simp +decide [scorePoint, Attribute.holdsText]
  have hanchor (anchor : Anchor) : Text.IsPlain anchor.name := by
    cases anchor <;> decide
  simp +decide [draw, circleAround, spokeLine, labelText, legend, legendEntry, harea, hpoint,
    hanchor, Attribute.holdsText]

theorem Timeline.hasPlainAttributes_draw (phases : List Phase) (config : Config Float)
    (style : Style) : (draw phases config style).HasPlainAttributes := by
  have hblock : ∀ block, (drawBlock config.trackY style block).HasPlainAttributes := by
    intro block
    simp +decide [drawBlock, Attribute.holdsText]
  simp +decide [draw, marker, hblock, Attribute.holdsText]

theorem Waterfall.hasPlainAttributes_draw (items : List (Item Float)) (config : Config Float)
    (color : String) : (draw items config color).HasPlainAttributes := by
  have hcolumn : ∀ columnWidth barWidth i step,
      (stepColumn config columnWidth barWidth i step).HasPlainAttributes := by
    intro columnWidth barWidth i step
    simp +decide [stepColumn, Attribute.holdsText]
  simp +decide [draw, nowColumn, acrossLine, targetLine, hcolumn, Attribute.holdsText]

/-! ## Scores -/

@[simp] theorem hasPlainAttributes_emptyState {message : String} :
    (emptyState message).HasPlainAttributes := by
  simp +decide [emptyState]

theorem hasPlainAttributes_orEmptyState {α : Type} {message : String} {pieces : List α}
    {draw : List α → Markup} (h : (draw pieces).HasPlainAttributes) :
    (orEmptyState message pieces draw).HasPlainAttributes := by
  simp [orEmptyState, h]

@[simp] theorem Trajectory.isPlain_name (t : Trajectory) : Text.IsPlain t.name := by
  cases t <;> decide

@[simp] theorem Band.isPlain_color (band : Band) : Text.IsPlain band.color := by
  cases band <;> decide

namespace Visual

theorem hasPlainAttributes_tile (s : Section) (options : RenderOptions) (fallback : String)
    (item : Json) (score : Float) :
    (tile s options fallback item score).HasPlainAttributes := by
  simp +decide [tile, tileTrajectory, Attribute.holdsText]

theorem hasPlainAttributes_of_tile? {s : Section} {options : RenderOptions} {fallback : String}
    {item : Json} {m : Markup} (h : tile? s options fallback item = some m) :
    m.HasPlainAttributes := by
  obtain ⟨score, -, rfl⟩ := Option.map_eq_some_iff.1 h
  exact hasPlainAttributes_tile s options fallback item score

theorem hasPlainAttributes_progressRow (s : Section) (options : RenderOptions) (item : Json)
    (score : Float) : (progressRow s options item score).HasPlainAttributes := by
  simp +decide [progressRow, onePlace, Attribute.holdsText]

theorem hasPlainAttributes_drawScoreTile (bindings : Bindings) (s : Section)
    (options : RenderOptions) : (drawScoreTile bindings s options).HasPlainAttributes := by
  unfold drawScoreTile
  cases htile : ((Item.all s bindings.primary?).head?).bind (tile? s options s.title) with
  | none => simp
  | some m =>
    obtain ⟨item, -, hm⟩ := Option.bind_eq_some_iff.1 htile
    exact hasPlainAttributes_of_tile? hm

theorem hasPlainAttributes_drawScoreTiles (bindings : Bindings) (s : Section)
    (options : RenderOptions) : (drawScoreTiles bindings s options).HasPlainAttributes := by
  apply hasPlainAttributes_orEmptyState
  simp only [Markup.hasPlainAttributes_styled, Markup.hasPlainAttributes_concat,
    List.mem_filterMap]
  refine ⟨by decide, fun m hm => ?_⟩
  obtain ⟨item, -, hm⟩ := hm
  exact hasPlainAttributes_of_tile? hm

theorem hasPlainAttributes_drawProgressBar (bindings : Bindings) (s : Section)
    (options : RenderOptions) : (drawProgressBar bindings s options).HasPlainAttributes := by
  apply hasPlainAttributes_orEmptyState
  simp only [Markup.hasPlainAttributes_styled, Markup.hasPlainAttributes_concat,
    List.mem_filterMap]
  refine ⟨by decide, fun m hm => ?_⟩
  obtain ⟨item, -, hm⟩ := hm
  obtain ⟨score, -, rfl⟩ := Option.map_eq_some_iff.1 hm
  exact hasPlainAttributes_progressRow s options item score

theorem hasPlainAttributes_drawMetricCard (bindings : Bindings) (s : Section)
    (options : RenderOptions) : (drawMetricCard bindings s options).HasPlainAttributes := by
  unfold drawMetricCard
  split
  · simp
  · split
    · simp +decide [cardOf]
    · simp

theorem hasPlainAttributes_drawKpiDashboard (bindings : Bindings) (s : Section)
    (options : RenderOptions) : (drawKpiDashboard bindings s options).HasPlainAttributes := by
  have htiles (scored : List (Json × Float)) :
      ∀ m ∈ scored.filterMap fun p => tile? s options "" p.1, m.HasPlainAttributes := by
    intro m hm
    obtain ⟨item, -, hm⟩ := List.mem_filterMap.1 hm
    exact hasPlainAttributes_of_tile? hm
  apply hasPlainAttributes_orEmptyState
  simp only [dashboard, Markup.hasPlainAttributes_styled, Markup.hasPlainAttributes_append,
    Markup.hasPlainAttributes_concat, Markup.hasPlainAttributes_text]
  exact ⟨by decide, ⟨by decide, Donut.hasPlainAttributes_draw .., by decide, trivial⟩, by decide,
    htiles _⟩

/-! ## Charts of items -/

theorem hasPlainAttributes_drawRadarChart (bindings : Bindings) (s : Section)
    (options : RenderOptions) : (drawRadarChart bindings s options).HasPlainAttributes :=
  hasPlainAttributes_orEmptyState (Radar.hasPlainAttributes_draw ..)

theorem hasPlainAttributes_drawBarChart (bindings : Bindings) (s : Section)
    (options : RenderOptions) : (drawBarChart bindings s options).HasPlainAttributes :=
  hasPlainAttributes_orEmptyState (Bar.hasPlainAttributes_draw ..)

theorem hasPlainAttributes_drawDonutChart (bindings : Bindings) (s : Section)
    (options : RenderOptions) : (drawDonutChart bindings s options).HasPlainAttributes := by
  unfold drawDonutChart
  rw [Markup.hasPlainAttributes_ite]
  exact ⟨fun _ => Donut.hasPlainAttributes_draw .., fun _ => hasPlainAttributes_emptyState⟩

theorem hasPlainAttributes_drawGapChart (bindings : Bindings) (s : Section)
    (options : RenderOptions) : (drawGapChart bindings s options).HasPlainAttributes :=
  hasPlainAttributes_orEmptyState (Waterfall.hasPlainAttributes_draw ..)

/-! ## Timelines -/

theorem hasPlainAttributes_phaseCard (s : Section) (i : Nat) (item : Json) :
    (phaseCard s i item).HasPlainAttributes := by
  have hlinked : (linkedCount item).HasPlainAttributes := by
    unfold linkedCount
    split <;> simp +decide
  simp +decide [phaseCard, hlinked]

theorem hasPlainAttributes_drawTimeline (bindings : Bindings) (s : Section)
    (options : RenderOptions) : (drawTimeline bindings s options).HasPlainAttributes :=
  hasPlainAttributes_orEmptyState (Timeline.hasPlainAttributes_draw ..)

theorem hasPlainAttributes_drawRoadmapTimeline (bindings : Bindings) (s : Section)
    (options : RenderOptions) : (drawRoadmapTimeline bindings s options).HasPlainAttributes := by
  apply hasPlainAttributes_orEmptyState
  simp +decide [timelineOf, Timeline.hasPlainAttributes_draw, hasPlainAttributes_phaseCard]

/-! ## Tables -/

@[simp] theorem hasPlainAttributes_rowOf {tag : Tag} {texts : List String} :
    (rowOf tag texts).HasPlainAttributes := by
  simp [rowOf]

theorem hasPlainAttributes_drawTable (bindings : Bindings) (s : Section)
    (options : RenderOptions) : (drawTable bindings s options).HasPlainAttributes := by
  unfold drawTable
  split
  · simp
  · simp +decide [dataTable]

theorem hasPlainAttributes_comparison (s : Section) (leftTitle rightTitle : String)
    (left right : List Json) :
    (comparison s leftTitle rightTitle left right).HasPlainAttributes := by
  have hcell : ∀ item, (rankedCell s item).HasPlainAttributes := by
    intro item
    simp +decide [rankedCell]
  simp +decide [comparison, rankedRow, hcell]

theorem hasPlainAttributes_riskTable (grid : RiskGrid) : (riskTable grid).HasPlainAttributes := by
  have hname (level : Level) : Text.IsPlain level.name := by
    cases level <;> decide
  have hcell : ∀ likelihood severity, (riskCell grid likelihood severity).HasPlainAttributes := by
    intro likelihood severity
    simp +decide [riskCell, hname, Decimal.isPlain_natText]
  simp +decide [riskTable, riskRow, unplacedNote, hcell]

theorem hasPlainAttributes_drawRiskMatrix (bindings : Bindings) (s : Section)
    (options : RenderOptions) : (drawRiskMatrix bindings s options).HasPlainAttributes :=
  hasPlainAttributes_orEmptyState (hasPlainAttributes_riskTable _)

/-! ## Texts and lists -/

@[simp] theorem hasPlainAttributes_paragraphs (text : String) :
    (paragraphs text).HasPlainAttributes := by
  simp [paragraphs]

/-- The variant of a callout has no character that is escaped. -/
theorem isPlain_calloutVariant (s : Section) : Text.IsPlain (calloutVariant s) := by
  unfold calloutVariant
  cases hslug : ((s.textOption? "variant" <|> s.toneTags.head?).map styleSlug).filter
      fun slug => !slug.isEmpty with
  | none => decide
  | some slug =>
    obtain ⟨text, -, rfl⟩ := Option.map_eq_some_iff.1 (Option.filter_eq_some_iff.1 hslug).1
    exact isPlain_styleSlug text

theorem hasPlainAttributes_drawTextBlock (bindings : Bindings) (s : Section)
    (options : RenderOptions) : (drawTextBlock bindings s options).HasPlainAttributes := by
  simp +decide [drawTextBlock]

theorem hasPlainAttributes_drawCalloutBox (bindings : Bindings) (s : Section)
    (options : RenderOptions) : (drawCalloutBox bindings s options).HasPlainAttributes := by
  simp +decide [drawCalloutBox, isPlain_calloutVariant]

theorem hasPlainAttributes_narrative (s : Section) (record : Json) :
    (narrative s record).HasPlainAttributes := by
  have hlist : ∀ field, (narrativeList record field).HasPlainAttributes := by
    intro field
    unfold narrativeList
    split <;> simp
  have htext : (narrativeText record).HasPlainAttributes := by
    rw [narrativeText, Markup.hasPlainAttributes_optional]
    intro m hm
    obtain ⟨text, -, rfl⟩ := Option.map_eq_some_iff.1 hm
    exact hasPlainAttributes_paragraphs text
  simp +decide [narrative, narrativeHeadline, narrativeTrajectory, hlist, htext]

theorem hasPlainAttributes_drawNarrativeBlock (bindings : Bindings) (s : Section)
    (options : RenderOptions) : (drawNarrativeBlock bindings s options).HasPlainAttributes := by
  unfold drawNarrativeBlock
  split
  · simp
  · simp
  · split
    · exact hasPlainAttributes_narrative s _
    · exact hasPlainAttributes_drawTextBlock bindings s options

theorem hasPlainAttributes_listOf {tag : Tag} {styleClass : String} {texts : List String}
    (h : Text.IsPlain styleClass) : (listOf tag styleClass texts).HasPlainAttributes := by
  simp [listOf, h]

theorem hasPlainAttributes_of_checkItem? {s : Section} {item : Json} {m : Markup}
    (h : checkItem? s item = some m) : m.HasPlainAttributes := by
  unfold checkItem? at h
  obtain ⟨-, hm⟩ := Option.ite_none_left_eq_some.1 h
  obtain rfl := Option.some.inj hm
  have hclass (isDone : Bool) :
      Text.IsPlain (if isDone then "checklist-item checked" else "checklist-item") := by
    cases isDone <;> decide
  simp +decide [checkLine, checkSteps, hclass]

theorem hasPlainAttributes_drawChecklist (bindings : Bindings) (s : Section)
    (options : RenderOptions) : (drawChecklist bindings s options).HasPlainAttributes := by
  unfold drawChecklist
  apply hasPlainAttributes_orEmptyState
  simp only [Markup.hasPlainAttributes_styled, Markup.hasPlainAttributes_concat,
    List.mem_filterMap]
  refine ⟨by decide, fun m hm => ?_⟩
  obtain ⟨item, -, hm⟩ := hm
  exact hasPlainAttributes_of_checkItem? hm

theorem hasPlainAttributes_of_comparisonRenderer {bindings : Bindings} {s : Section}
    (options : RenderOptions) {fragment : Markup}
    (h : comparisonRenderer bindings s options = .drawn fragment) :
    fragment.HasPlainAttributes := by
  unfold comparisonRenderer drawComparisonTable at h
  split at h
  · next hcomparison =>
    obtain rfl := Outcome.drawn.inj h
    split at hcomparison
    · obtain rfl := Except.ok.inj hcomparison
      simp [hasPlainAttributes_comparison]
    · cases hcomparison
  · cases h

/-- Whatever a built-in visual draws has plain attributes. -/
theorem hasPlainAttributes_of_drawn {visual : Visual} {bindings : Bindings} {s : Section}
    {options : RenderOptions} {fragment : Markup}
    (h : visual.renderer bindings s options = .drawn fragment) :
    fragment.HasPlainAttributes := by
  cases visual with
  | scoreTile => exact Outcome.drawn.inj h ▸ hasPlainAttributes_drawScoreTile bindings s options
  | scoreTiles => exact Outcome.drawn.inj h ▸ hasPlainAttributes_drawScoreTiles bindings s options
  | radarChart => exact Outcome.drawn.inj h ▸ hasPlainAttributes_drawRadarChart bindings s options
  | barChart => exact Outcome.drawn.inj h ▸ hasPlainAttributes_drawBarChart bindings s options
  | progressBar =>
    exact Outcome.drawn.inj h ▸ hasPlainAttributes_drawProgressBar bindings s options
  | table => exact Outcome.drawn.inj h ▸ hasPlainAttributes_drawTable bindings s options
  | checklist => exact Outcome.drawn.inj h ▸ hasPlainAttributes_drawChecklist bindings s options
  | timeline => exact Outcome.drawn.inj h ▸ hasPlainAttributes_drawTimeline bindings s options
  | riskMatrix => exact Outcome.drawn.inj h ▸ hasPlainAttributes_drawRiskMatrix bindings s options
  | roadmapTimeline =>
    exact Outcome.drawn.inj h ▸ hasPlainAttributes_drawRoadmapTimeline bindings s options
  | kpiDashboard =>
    exact Outcome.drawn.inj h ▸ hasPlainAttributes_drawKpiDashboard bindings s options
  | textBlock => exact Outcome.drawn.inj h ▸ hasPlainAttributes_drawTextBlock bindings s options
  | narrativeBlock =>
    exact Outcome.drawn.inj h ▸ hasPlainAttributes_drawNarrativeBlock bindings s options
  | bulletList =>
    exact Outcome.drawn.inj h ▸ hasPlainAttributes_orEmptyState
      (hasPlainAttributes_listOf (by decide))
  | numberedList =>
    exact Outcome.drawn.inj h ▸ hasPlainAttributes_orEmptyState
      (hasPlainAttributes_listOf (by decide))
  | calloutBox => exact Outcome.drawn.inj h ▸ hasPlainAttributes_drawCalloutBox bindings s options
  | metricCard => exact Outcome.drawn.inj h ▸ hasPlainAttributes_drawMetricCard bindings s options
  | comparisonTable => exact hasPlainAttributes_of_comparisonRenderer options h
  | none => exact Outcome.drawn.inj h ▸ Markup.hasPlainAttributes_empty
  | donutChart => exact Outcome.drawn.inj h ▸ hasPlainAttributes_drawDonutChart bindings s options
  | gapChart => exact Outcome.drawn.inj h ▸ hasPlainAttributes_drawGapChart bindings s options

end Visual

end DiagnosticReport
