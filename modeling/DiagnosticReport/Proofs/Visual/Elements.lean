import DiagnosticReport.Proofs.Chart.Elements
import DiagnosticReport.Visual.Registry

/-!
# The elements of visuals

Every built-in visual draws with the elements of `Tag.isDrawn` and without verbatim markup, on each
of its branches and whatever the section and its bindings hold.
-/

namespace DiagnosticReport

@[simp] theorem uses_emptyState {p : Tag → Bool} {message : String} :
    (emptyState message).Uses p ↔ p .p := by
  simp [emptyState]

theorem uses_orEmptyState {α : Type} {p : Tag → Bool} {message : String} {pieces : List α}
    {draw : List α → Markup} (hp : p .p) (h : (draw pieces).Uses p) :
    (orEmptyState message pieces draw).Uses p := by
  simp [orEmptyState, hp, h]

namespace Visual

/-! ## Scores -/

theorem uses_tile (s : Section) (options : RenderOptions) (fallback : String) (item : Json)
    (score : Float) : (tile s options fallback item score).Uses Tag.isDrawn := by
  simp [tile, tileTrajectory, Tag.isDrawn]

theorem uses_of_tile? {s : Section} {options : RenderOptions} {fallback : String} {item : Json}
    {m : Markup} (h : tile? s options fallback item = some m) : m.Uses Tag.isDrawn := by
  obtain ⟨score, -, rfl⟩ := Option.map_eq_some_iff.1 h
  exact uses_tile s options fallback item score

theorem uses_drawScoreTile (bindings : Bindings) (s : Section) (options : RenderOptions) :
    (drawScoreTile bindings s options).Uses Tag.isDrawn := by
  unfold drawScoreTile
  cases htile : ((Item.all s bindings.primary?).head?).bind (tile? s options s.title) with
  | none => simp [Tag.isDrawn]
  | some m =>
    obtain ⟨item, -, hm⟩ := Option.bind_eq_some_iff.1 htile
    exact uses_of_tile? hm

theorem uses_drawScoreTiles (bindings : Bindings) (s : Section) (options : RenderOptions) :
    (drawScoreTiles bindings s options).Uses Tag.isDrawn := by
  apply uses_orEmptyState rfl
  simp only [Markup.uses_styled, Markup.uses_concat, List.mem_filterMap]
  refine ⟨rfl, fun m hm => ?_⟩
  obtain ⟨item, -, hm⟩ := hm
  exact uses_of_tile? hm

theorem uses_progressRow (s : Section) (options : RenderOptions) (item : Json) (score : Float) :
    (progressRow s options item score).Uses Tag.isDrawn := by
  simp [progressRow, Tag.isDrawn]

theorem uses_drawProgressBar (bindings : Bindings) (s : Section) (options : RenderOptions) :
    (drawProgressBar bindings s options).Uses Tag.isDrawn := by
  apply uses_orEmptyState rfl
  simp only [Markup.uses_styled, Markup.uses_concat, List.mem_filterMap]
  refine ⟨rfl, fun m hm => ?_⟩
  obtain ⟨item, -, hm⟩ := hm
  obtain ⟨score, -, rfl⟩ := Option.map_eq_some_iff.1 hm
  exact uses_progressRow s options item score

theorem uses_drawMetricCard (bindings : Bindings) (s : Section) (options : RenderOptions) :
    (drawMetricCard bindings s options).Uses Tag.isDrawn := by
  unfold drawMetricCard
  split
  · simp [Tag.isDrawn]
  · split
    · simp [cardOf, Tag.isDrawn]
    · simp [Tag.isDrawn]

theorem uses_drawKpiDashboard (bindings : Bindings) (s : Section) (options : RenderOptions) :
    (drawKpiDashboard bindings s options).Uses Tag.isDrawn := by
  apply uses_orEmptyState rfl
  simp only [dashboard, Markup.uses_styled, Markup.uses_append, Markup.uses_concat,
    Markup.uses_text, List.mem_filterMap]
  refine ⟨rfl, ⟨rfl, (Donut.uses_draw _ _ _).isDrawn, rfl, trivial⟩, rfl, fun m hm => ?_⟩
  obtain ⟨item, -, hm⟩ := hm
  exact uses_of_tile? hm

/-! ## Charts of items -/

theorem uses_drawRadarChart (bindings : Bindings) (s : Section) (options : RenderOptions) :
    (drawRadarChart bindings s options).Uses Tag.isDrawn :=
  uses_orEmptyState rfl (Radar.uses_draw _ _ _ _).isDrawn

theorem uses_drawBarChart (bindings : Bindings) (s : Section) (options : RenderOptions) :
    (drawBarChart bindings s options).Uses Tag.isDrawn :=
  uses_orEmptyState rfl (Bar.uses_draw _ _ _).isDrawn

theorem uses_drawDonutChart (bindings : Bindings) (s : Section) (options : RenderOptions) :
    (drawDonutChart bindings s options).Uses Tag.isDrawn := by
  unfold drawDonutChart
  simp only [Markup.uses_ite]
  exact ⟨fun _ => (Donut.uses_draw _ _ _).isDrawn, fun _ => by simp [Tag.isDrawn]⟩

theorem uses_drawGapChart (bindings : Bindings) (s : Section) (options : RenderOptions) :
    (drawGapChart bindings s options).Uses Tag.isDrawn :=
  uses_orEmptyState rfl (Waterfall.uses_draw _ _ _).isDrawn

/-! ## Timelines -/

theorem uses_drawTimeline (bindings : Bindings) (s : Section) (options : RenderOptions) :
    (drawTimeline bindings s options).Uses Tag.isDrawn :=
  uses_orEmptyState rfl (Timeline.uses_draw _ _ _).isDrawn

theorem uses_phaseCard (s : Section) (i : Nat) (item : Json) :
    (phaseCard s i item).Uses Tag.isDrawn := by
  have hlinked : (linkedCount item).Uses Tag.isDrawn := by
    unfold linkedCount
    split <;> simp [Tag.isDrawn]
  simp [phaseCard, hlinked, Tag.isDrawn]

theorem uses_drawRoadmapTimeline (bindings : Bindings) (s : Section) (options : RenderOptions) :
    (drawRoadmapTimeline bindings s options).Uses Tag.isDrawn := by
  apply uses_orEmptyState rfl
  simp only [timelineOf, Markup.uses_styled, Markup.uses_append, Markup.uses_concat_mapIdx]
  exact ⟨rfl, (Timeline.uses_draw _ _ _).isDrawn, rfl, fun i _ => uses_phaseCard s i _⟩

/-! ## Tables -/

theorem uses_rowOf {p : Tag → Bool} {tag : Tag} {texts : List String} (htr : p .tr) (htag : p tag) :
    (rowOf tag texts).Uses p := by
  simp [rowOf, htr, htag]

theorem uses_dataTable (columns : List String) (items : List Json) :
    (dataTable columns items).Uses Tag.isDrawn := by
  have hheader : (rowOf .th (headerTexts columns)).Uses Tag.isDrawn := uses_rowOf rfl rfl
  have hrow : ∀ item, (rowOf .td (rowTexts columns item)).Uses Tag.isDrawn :=
    fun _ => uses_rowOf rfl rfl
  simp [dataTable, hheader, hrow, Tag.isDrawn]

theorem uses_drawTable (bindings : Bindings) (s : Section) (options : RenderOptions) :
    (drawTable bindings s options).Uses Tag.isDrawn := by
  unfold drawTable
  split
  · simp [Tag.isDrawn]
  · exact uses_dataTable _ _

theorem uses_comparison (s : Section) (leftTitle rightTitle : String) (left right : List Json) :
    (comparison s leftTitle rightTitle left right).Uses Tag.isDrawn := by
  have hcell : ∀ item, (rankedCell s item).Uses Tag.isDrawn := by
    intro item
    simp [rankedCell, Tag.isDrawn]
  have hheader : (rowOf .th ["#", leftTitle, rightTitle]).Uses Tag.isDrawn := uses_rowOf rfl rfl
  simp [comparison, rankedRow, hcell, hheader, Tag.isDrawn]

theorem uses_riskTable (grid : RiskGrid) : (riskTable grid).Uses Tag.isDrawn := by
  have hcell : ∀ likelihood severity, (riskCell grid likelihood severity).Uses Tag.isDrawn := by
    intro likelihood severity
    simp [riskCell, Tag.isDrawn]
  simp [riskTable, riskRow, unplacedNote, hcell, Tag.isDrawn]

theorem uses_drawRiskMatrix (bindings : Bindings) (s : Section) (options : RenderOptions) :
    (drawRiskMatrix bindings s options).Uses Tag.isDrawn :=
  uses_orEmptyState rfl (uses_riskTable _)

/-! ## Texts and lists -/

theorem uses_paragraphs {p : Tag → Bool} (hp : p .p) (text : String) :
    (paragraphs text).Uses p := by
  simp [paragraphs, hp]

theorem uses_drawTextBlock (bindings : Bindings) (s : Section) (options : RenderOptions) :
    (drawTextBlock bindings s options).Uses Tag.isDrawn := by
  have hparagraphs := uses_paragraphs (p := Tag.isDrawn) rfl
  simp [drawTextBlock, hparagraphs, Tag.isDrawn]

theorem uses_drawCalloutBox (bindings : Bindings) (s : Section) (options : RenderOptions) :
    (drawCalloutBox bindings s options).Uses Tag.isDrawn := by
  have hparagraphs := uses_paragraphs (p := Tag.isDrawn) rfl
  simp [drawCalloutBox, hparagraphs, Tag.isDrawn]

theorem uses_narrative (s : Section) (record : Json) :
    (narrative s record).Uses Tag.isDrawn := by
  have hlist : ∀ field, (narrativeList record field).Uses Tag.isDrawn := by
    intro field
    unfold narrativeList
    split <;> simp [Tag.isDrawn]
  have htext : (narrativeText record).Uses Tag.isDrawn := by
    rw [narrativeText, Markup.uses_optional]
    intro m hm
    obtain ⟨text, -, rfl⟩ := Option.map_eq_some_iff.1 hm
    exact uses_paragraphs rfl text
  simp [narrative, narrativeHeadline, narrativeTrajectory, hlist, htext, Tag.isDrawn]

theorem uses_drawNarrativeBlock (bindings : Bindings) (s : Section) (options : RenderOptions) :
    (drawNarrativeBlock bindings s options).Uses Tag.isDrawn := by
  unfold drawNarrativeBlock
  split
  · simp [Tag.isDrawn]
  · simp [Tag.isDrawn]
  · split
    · exact uses_narrative s _
    · exact uses_drawTextBlock bindings s options

theorem uses_listOf {p : Tag → Bool} {tag : Tag} {styleClass : String} {texts : List String}
    (htag : p tag) (hli : p .li) : (listOf tag styleClass texts).Uses p := by
  simp [listOf, htag, hli]

theorem uses_drawBulletList (bindings : Bindings) (s : Section) (options : RenderOptions) :
    (drawBulletList bindings s options).Uses Tag.isDrawn :=
  uses_orEmptyState rfl (uses_listOf rfl rfl)

theorem uses_drawNumberedList (bindings : Bindings) (s : Section) (options : RenderOptions) :
    (drawNumberedList bindings s options).Uses Tag.isDrawn :=
  uses_orEmptyState rfl (uses_listOf rfl rfl)

theorem uses_of_checkItem? {s : Section} {item : Json} {m : Markup}
    (h : checkItem? s item = some m) : m.Uses Tag.isDrawn := by
  unfold checkItem? at h
  obtain ⟨-, hm⟩ := Option.ite_none_left_eq_some.1 h
  obtain rfl := Option.some.inj hm
  simp [checkLine, checkSteps, Tag.isDrawn]

theorem uses_drawChecklist (bindings : Bindings) (s : Section) (options : RenderOptions) :
    (drawChecklist bindings s options).Uses Tag.isDrawn := by
  unfold drawChecklist
  apply uses_orEmptyState rfl
  simp only [Markup.uses_styled, Markup.uses_concat, List.mem_filterMap]
  refine ⟨rfl, fun m hm => ?_⟩
  obtain ⟨item, -, hm⟩ := hm
  exact uses_of_checkItem? hm

end Visual

end DiagnosticReport
