import DiagnosticReport.Proofs.Markup.Openings
import DiagnosticReport.Proofs.Visual.Bands
import DiagnosticReport.Proofs.Visual.Elements
import DiagnosticReport.Proofs.Visual.Items
import Mathlib.Data.List.Forall2

/-!
# Labels of shown items

The visuals of scores select items in three ways, and two of their charts arrange them on their own.
All of them show the items with a score, each of them once, in their order and under its label
(`Visual.scored_items_shown`).

Elements are counted in the rendered text, where a label could look like one if it was not escaped.
-/

namespace DiagnosticReport

open Markup

/-! ## Labelled elements -/

/-- The texts of the elements of one kind within each element of another kind. -/
def labelsWithin (opening labelOpening : String) (m : Markup) : List (List String) :=
  (m.opened opening).map fun body => (body.opened labelOpening).map render

/-- The rendered text has one element of a kind for each label, which holds this label and no
other one. -/
structure LabelsInside (opening labelOpening : String) (labels : List String) (m : Markup) :
    Prop where
  occurrences_eq : occurrences ("<" ++ opening) m.render = labels.length
  labels_eq : labelsWithin opening labelOpening m = labels.map fun label => [Text.escape label]

/-- The rendered text has one element of a kind for each label, and the labels stand beside these
elements. -/
structure LabelsBeside (opening labelOpening : String) (labels : List String) (m : Markup) :
    Prop where
  occurrences_eq : occurrences ("<" ++ opening) m.render = labels.length
  labels_eq : (m.opened labelOpening).map render = labels.map Text.escape

section

variable {opening labelOpening : String} {labels : List String} {m : Markup} {p : Tag → Bool}

theorem Markup.Uses.labelsInside (h : m.Uses p) (hopening : IsOpening opening)
    (hlabels : labelsWithin opening labelOpening m = labels.map fun label => [Text.escape label]) :
    LabelsInside opening labelOpening labels m := by
  refine ⟨?_, hlabels⟩
  have hlength := congrArg List.length hlabels
  rwa [labelsWithin, List.length_map, List.length_map, ← h.occurrences_eq hopening] at hlength

/-- An element of the one kind with a single label of the other. -/
theorem labelsWithin_element {label : String} {tag : Tag} {attributes : List (Attribute × String)}
    {body : Markup} (hopens : opens opening tag attributes) (hbody : body.opened opening = [])
    (hlabel : body.opened labelOpening = [.text label]) :
    labelsWithin opening labelOpening (.element tag attributes body) = [[Text.escape label]] := by
  rw [labelsWithin, opened_element_of_opens hopens, hbody, List.map_singleton, hlabel]
  rfl

end

/-- The canvas of a chart opens none of the elements that are looked for in its body. -/
theorem opened_canvas {width height : Float} {kind title opening : String} {body : Markup}
    (h : ∀ attributes, opens opening .svg attributes = false) :
    (canvas width height kind title body).opened opening = body.opened opening :=
  opened_element_of_not_opens (h _)

section

variable {α : Type} {message : String} {pieces : List α} {draw : List α → Markup}

theorem opened_orEmptyState {opening : String}
    (hmessage : opens opening .p [(.styleClass, "empty-state")] = false)
    (hnone : (draw []).opened opening = []) :
    (orEmptyState message pieces draw).opened opening = (draw pieces).opened opening := by
  cases pieces with
  | nil => exact (opened_element_of_not_opens hmessage).trans hnone.symm
  | cons piece pieces => rfl

/-- A drawing is a message just if there is nothing to draw. -/
theorem exists_orEmptyState_eq_iff {tag : Tag} {attributes : List (Attribute × String)}
    {body : Markup} (hdraw : draw pieces = .element tag attributes body) (htag : tag ≠ .p) :
    (∃ other, orEmptyState message pieces draw = emptyState other) ↔ pieces = [] := by
  cases pieces with
  | nil => exact iff_of_true ⟨message, rfl⟩ rfl
  | cons piece pieces =>
    -- a message is a paragraph
    refine iff_of_false (fun ⟨other, h⟩ => htag ?_) (List.cons_ne_nil _ _)
    exact (Markup.element.inj (hdraw.symm.trans h)).1

end

/-! ## Charts -/

namespace Radar

variable (axes : List (Datum Float)) (config : Config Float) (thresholds : Thresholds)
  (color : String)

/-- Only the points and the labels of a radar open as such. -/
theorem opened_draw {opening : String} (h : opening = "circle class=\"radar-point " ∨
      opening = "text class=\"radar-label\"") :
    (draw axes config thresholds color).opened opening =
      (concat ((geometry axes config).vertices.map (scorePoint thresholds))).opened opening ++
        (concat ((geometry axes config).labels.map labelText)).opened opening := by
  have hcanvas (attributes : List (Attribute × String)) :
      opens opening .svg attributes = false := by
    rcases h with rfl | rfl <;> rfl
  have hrings (center : Point Float) (rings : List Float) :
      (concat (rings.map fun r => circleAround center "radar-ring" r "#e5e7eb" "1" [])).opened
        opening = [] :=
    opened_concat_eq_nil (List.forall_mem_map.2 fun _ _ => by rcases h with rfl | rfl <;> rfl)
  have hspokes (center : Point Float) (spokes : List (Point Float)) :
      (concat (spokes.map (spokeLine center))).opened opening = [] :=
    opened_concat_eq_nil (List.forall_mem_map.2 fun _ _ => by rcases h with rfl | rfl <;> rfl)
  have hindustry (center : Point Float) (radius : Float) (stroke width : String)
      (more : List (Attribute × String)) :
      (circleAround center "radar-ref radar-ref-industry" radius stroke width more).opened
        opening = [] := by
    rcases h with rfl | rfl <;> rfl
  have hquartile (center : Point Float) (radius : Float) (stroke width : String)
      (more : List (Attribute × String)) :
      (circleAround center "radar-ref radar-ref-top-quartile" radius stroke width more).opened
        opening = [] := by
    rcases h with rfl | rfl <;> rfl
  have harea (vertices : List (Vertex Float)) :
      (scoreArea vertices color).opened opening = [] := by
    cases vertices <;> rcases h with rfl | rfl <;> rfl
  have hentry (x1 x2 textX y stroke dashes label : String) :
      (legendEntry x1 x2 textX y stroke dashes label).opened opening = [] := by
    rcases h with rfl | rfl
    · rfl
    · have htext : opens "text class=\"radar-label\"" .text
          [(.x, textX), (.y, y), (.dominantBaseline, "middle")] = false := by
        simp [opens, attributeChars, Tag.name, Attribute.name, List.isPrefixOf]
      rw [legendEntry, opened_append, opened_element_of_not_opens htext]
      rfl
  have hlegend : (legend config).opened opening = [] := by
    have hgroup : opens opening .g
        [(.styleClass, "radar-legend"), (.fontSize, "10"), (.fill, "#6b7280")] = false := by
      rcases h with rfl | rfl <;> rfl
    rw [legend, opened_element_of_not_opens hgroup, opened_append, hentry, hentry]
    rfl
  rw [draw, opened_canvas hcanvas]
  simp only [opened_append, hrings, hspokes, hindustry, hquartile, harea, hlegend,
    List.nil_append, List.append_nil]

/-- A radar chart has a point for each axis. -/
theorem length_opened_radarPoint :
    ((draw axes config thresholds color).opened "circle class=\"radar-point ").length =
      axes.length := by
  have hband (band : Band) (rest : List (Attribute × String)) : opens "circle class=\"radar-point "
      .circle ((.styleClass, "radar-point " ++ band.styleClass) :: rest) = true := by
    cases band <;> rfl
  have hpoint (v : Vertex Float) :
      ((scorePoint thresholds v).opened "circle class=\"radar-point ").map (fun _ => ()) =
        [()] := by
    rw [scorePoint, opened_element_of_opens (hband ..)]
    rfl
  have hlabels (labels : List (Label Float)) :
      (concat (labels.map labelText)).opened "circle class=\"radar-point " = [] :=
    opened_concat_eq_nil (List.forall_mem_map.2 fun _ _ => rfl)
  have hpoints := map_opened_concat_map hpoint (geometry axes config).vertices
  rw [opened_draw _ _ _ _ (.inl rfl), hlabels, List.append_nil]
  simpa [geometry] using congrArg List.length hpoints

/-- The labels of a radar chart are those of its axes, in their order. -/
theorem map_opened_radarLabel :
    ((draw axes config thresholds color).opened "text class=\"radar-label\"").map render =
      axes.map fun axis => Text.escape axis.label := by
  have hpoints (vertices : List (Vertex Float)) :
      (concat (vertices.map (scorePoint thresholds))).opened "text class=\"radar-label\"" = [] :=
    opened_concat_eq_nil (List.forall_mem_map.2 fun _ _ => rfl)
  have hlabel (l : Label Float) :
      ((labelText l).opened "text class=\"radar-label\"").map render = [Text.escape l.text] := rfl
  rw [opened_draw _ _ _ _ (.inr rfl), hpoints, List.nil_append, map_opened_concat_map hlabel]
  refine List.ext_getElem (by simp [geometry]) fun i hi hi' => ?_
  simp [geometry, axisLabel]

end Radar

namespace Bar

variable (data : List (Datum Float)) (config : Config Float) (thresholds : Thresholds)

theorem map_label_geometry : (geometry data config).map Rect.label = data.map Datum.label := by
  refine List.ext_getElem (by simp [geometry]) fun i hi hi' => ?_
  simp [geometry, bar]

/-- A bar chart has a track for each datum. -/
theorem length_opened_barTrack :
    ((draw data config thresholds).opened "rect class=\"bar-track\"").length = data.length := by
  have hband (band : Band) (rest : List (Attribute × String)) : opens "rect class=\"bar-track\""
      .rect ((.styleClass, "bar " ++ band.styleClass) :: rest) = false := by
    cases band <;> rfl
  have hbar (width : Float) (bar : Rect Float) :
      ((drawBar width thresholds bar).opened "rect class=\"bar-track\"").map (fun _ => ()) =
        [()] := by
    simp only [drawBar, opened_append, opened, hband]
    rfl
  have hbars := map_opened_concat_map (hbar config.chartWidth) (geometry data config)
  rw [draw, opened_canvas fun _ => rfl]
  simpa [geometry] using congrArg List.length hbars

/-- The labels of a bar chart are those of its data, in their order. -/
theorem map_opened_barLabel :
    ((draw data config thresholds).opened "text class=\"bar-label\"").map render =
      data.map fun datum => Text.escape datum.label := by
  have hbar (width : Float) (bar : Rect Float) :
      ((drawBar width thresholds bar).opened "text class=\"bar-label\"").map render =
        [Text.escape bar.label] := rfl
  have hlabels := congrArg (List.map Text.escape) (map_label_geometry data config)
  rw [List.map_map, List.map_map] at hlabels
  rw [draw, opened_canvas fun _ => rfl, map_opened_concat_map (hbar _)]
  exact hlabels

/-- The labels and the tracks of bars in the order in which they stand; tracks have no text. -/
def rows (m : Markup) : List (Option String) :=
  m.collect fun styleClass body =>
    if styleClass == "bar-label" then some (some body.render)
    else if styleClass == "bar-track" then some none
    else none

/-- In a bar chart, each label stands in front of its track. -/
theorem rows_draw :
    rows (draw data config thresholds) =
      data.flatMap fun datum => [some (Text.escape datum.label), none] := by
  have hbar (width : Float) (bar : Rect Float) :
      rows (drawBar width thresholds bar) = [some (Text.escape bar.label), none] := by
    simp only [rows, drawBar, collect_append, collect_element, collect_leaf, readClass_styleClass]
    cases thresholds.classify bar.value <;> rfl
  have hbars : rows (draw data config thresholds) =
      (geometry data config).flatMap fun bar =>
        rows (drawBar config.chartWidth thresholds bar) := by
    rw [← List.flatMap_map (drawBar config.chartWidth thresholds) rows]
    exact collect_concat
  simp only [hbars, hbar]
  rw [← List.flatMap_map Rect.label fun label => [some (Text.escape label), none],
    map_label_geometry, List.flatMap_map]

end Bar

namespace Waterfall

variable {α : Type} [Scalar α]

/-- Columns are stacked in the order of the items. -/
theorem map_label_stepsFrom (default gap total level : α) (items : List (Item α)) :
    (stepsFrom default gap total level items).map Step.label = items.map Item.label := by
  induction items generalizing level with
  | nil => rfl
  | cons item rest ih => rw [stepsFrom, List.map_cons, List.map_cons, ih]

theorem map_label_geometry (items : List (Item α)) (config : Config α) :
    (geometry items config).steps.map Step.label = items.map Item.label := by
  cases items with
  | nil => rfl
  | cons item rest => exact map_label_stepsFrom _ _ _ _ _

/-- The text of a column. -/
def Step.text (step : Step Float) : String :=
  step.label ++ ": +" ++ coordinate step.contribution

theorem labelsWithin_draw (items : List (Item Float)) (config : Config Float) (color : String) :
    labelsWithin "rect class=\"gap-step\"" "title" (draw items config color) =
      (geometry items config).steps.map fun step => [Text.escape step.text] := by
  have hstep (columnWidth barWidth : Float) (i : Nat) (step : Step Float) :
      labelsWithin "rect class=\"gap-step\"" "title"
        (stepColumn config columnWidth barWidth i step) = [[Text.escape step.text]] := rfl
  have hnow (now columnWidth barWidth : Float) :
      (nowColumn config now columnWidth barWidth color).opened "rect class=\"gap-step\"" = [] := rfl
  have htarget (target : Float) :
      (targetLine config target).opened "rect class=\"gap-step\"" = [] := rfl
  have haxis (styleClass y stroke width : String) (more : List (Attribute × String)) :
      (acrossLine config styleClass y stroke width more).opened "rect class=\"gap-step\"" =
        [] := rfl
  rw [labelsWithin, draw, opened_canvas fun _ => rfl]
  simp only [opened_append, hnow, htarget, haxis, List.nil_append, List.append_nil]
  exact map_opened_concat_mapIdx (hstep _ _) _

end Waterfall

namespace Visual

/-! ## Tiles and rows -/

section

variable (s : Section) (options : RenderOptions)

/-- The label of an item, unless it has none or is a number. -/
theorem labelOr_eq (fallback : String) (item : Json) :
    labelOr s fallback item =
      if Item.label s item = "" ∨ item.isNumber then fallback else Item.label s item := by
  simp [labelOr, String.isEmpty_iff]

/-- A tile has the label of its item. -/
theorem labelsWithin_tile (fallback : String) (item : Json) (score : Float) :
    labelsWithin "div class=\"score-tile " "div class=\"score-label\""
      (tile s options fallback item score) = [[Text.escape (labelOr s fallback item)]] := by
  have hband (band : Band) : opens "div class=\"score-tile " .div
      [(.styleClass, "score-tile " ++ band.styleClass)] = true := by
    cases band <;> rfl
  rw [tile]
  cases Item.trajectory? item (some score) with
  | none => exact labelsWithin_element (hband _) rfl rfl
  | some t => cases t <;> exact labelsWithin_element (hband _) rfl rfl

/-- A progress bar has the label of its item, or else the title of the section. -/
theorem labelsWithin_progressRow (item : Json) (score : Float) :
    labelsWithin "div class=\"progress-row\"" "span class=\"progress-label\""
      (progressRow s options item score) = [[Text.escape (labelOr s s.title item)]] := by
  have hfill (band : Band) (style : String) : opens "div class=\"progress-row\"" .div
      [(.styleClass, "progress-fill " ++ band.styleClass), (.style, style)] = false := by
    cases band <;> rfl
  have htrack (band : Band) (style : String) :
      (styled .div "progress-track" (.element .div [(.styleClass, "progress-fill " ++
        band.styleClass), (.style, style)] .empty)).opened "div class=\"progress-row\"" = [] := by
    rw [styled, opened_element_of_not_opens rfl, opened_element_of_not_opens (hfill band style)]
    rfl
  refine labelsWithin_element rfl ?_ rfl
  simp only [opened_append, htrack]
  rfl

end

section

variable (bindings : Bindings) (s : Section) (options : RenderOptions)

/-- The tiles have the labels of the rated items, in their order. -/
theorem labelsWithin_drawScoreTiles :
    labelsWithin "div class=\"score-tile " "div class=\"score-label\""
      (drawScoreTiles bindings s options) =
      (ratedItems s (Item.shown s bindings.primary?)).map fun p =>
        [Text.escape (labelOr s "" p.1)] := by
  rw [labelsWithin, drawScoreTiles, opened_orEmptyState rfl rfl, filterMap_tile?, styled,
    opened_element_of_not_opens rfl]
  exact map_opened_concat_map (fun p => labelsWithin_tile ..) _

/-- The progress bars have the labels of the rated items, in their order. -/
theorem labelsWithin_drawProgressBar :
    labelsWithin "div class=\"progress-row\"" "span class=\"progress-label\""
      (drawProgressBar bindings s options) =
      (ratedItems s (Item.shown s bindings.primary?)).map fun p =>
        [Text.escape (labelOr s s.title p.1)] := by
  have hrows : (Item.shown s bindings.primary?).filterMap (progressRow? s options) = _ :=
    filterMap_score (progressRow s options)
  rw [labelsWithin, drawProgressBar, opened_orEmptyState rfl rfl, hrows, styled,
    opened_element_of_not_opens rfl]
  exact map_opened_concat_map (fun p => labelsWithin_progressRow ..) _

/-- The tiles of a dashboard have the labels of the rated items, in their order. -/
theorem labelsWithin_drawKpiDashboard :
    labelsWithin "div class=\"score-tile " "div class=\"score-label\""
      (drawKpiDashboard bindings s options) =
      (ratedItems s (Item.shown s bindings.primary?)).map fun p =>
        [Text.escape (labelOr s "" p.1)] := by
  have hdonut (slices : List (Donut.Slice Float)) (config : Donut.Config Float)
      (center : Option String) :
      (Donut.draw slices config center).opened "div class=\"score-tile " = [] :=
    (Donut.uses_draw slices config center).opened_eq_nil (by decide) fun tag htag rest => by
      cases tag <;> first | rfl | cases htag
  have hdashboard (items : List Json) :
      labelsWithin "div class=\"score-tile " "div class=\"score-label\""
        (dashboard s options (scoredItems s items)) =
        (ratedItems s items).map fun p => [Text.escape (labelOr s "" p.1)] := by
    rw [labelsWithin, dashboard]
    simp only [styled]
    rw [opened_element_of_not_opens rfl, opened_append, opened_element_of_not_opens rfl,
      opened_append, hdonut, opened_element_of_not_opens rfl, opened_element_of_not_opens rfl,
      filterMap_tile?_scoredItems]
    exact map_opened_concat_map (fun p => labelsWithin_tile ..) _
  rw [labelsWithin, drawKpiDashboard,
    opened_orEmptyState rfl (List.map_eq_nil_iff.1 (hdashboard []))]
  exact hdashboard _

theorem gapItems_eq :
    ∃ target : Json → Option Float, gapItems bindings s =
      (ratedItems s (Item.shown s bindings.primary?)).map fun p =>
        { label := Item.label s p.1, current := p.2, target := target p.1 } :=
  ⟨_, filterMap_score _⟩

/-- Each column shows the label of an item with its share of the gap. -/
theorem exists_labelsWithin_drawGapChart :
    ∃ columns : List String,
      labelsWithin "rect class=\"gap-step\"" "title" (drawGapChart bindings s options) =
        columns.map (fun column => [Text.escape column]) ∧
      List.Forall₂ (fun label column => ∃ share : Float,
          column = label ++ ": +" ++ coordinate share)
        ((ratedItems s (Item.shown s bindings.primary?)).map fun p => Item.label s p.1)
        columns := by
  obtain ⟨target, hitems⟩ := gapItems_eq bindings s
  let steps := (Waterfall.geometry (gapItems bindings s) (gapConfig s options)).steps
  have hlabels : steps.map Waterfall.Step.label =
      (ratedItems s (Item.shown s bindings.primary?)).map fun p => Item.label s p.1 := by
    rw [Waterfall.map_label_geometry, hitems, List.map_map]
    rfl
  refine ⟨steps.map Waterfall.Step.text, ?_, ?_⟩
  · rw [labelsWithin, drawGapChart, opened_orEmptyState rfl rfl, ← labelsWithin,
      Waterfall.labelsWithin_draw, List.map_map]
    rfl
  · rw [← hlabels, List.forall₂_map_left_iff, List.forall₂_map_right_iff, List.forall₂_same]
    exact fun step _ => ⟨step.contribution, rfl⟩

/-- A radar chart has a point and a label for each rated item. -/
theorem labelsBeside_drawRadarChart :
    LabelsBeside "circle class=\"radar-point " "text class=\"radar-label\""
      ((ratedItems s (Item.shown s bindings.primary?)).map fun p => Item.label s p.1)
      (drawRadarChart bindings s options) where
  occurrences_eq := by
    rw [(uses_drawRadarChart bindings s options).occurrences_eq (by decide), drawRadarChart,
      opened_orEmptyState rfl, Radar.length_opened_radarPoint, scoredSeries_eq, List.length_map,
      List.length_map]
    exact List.length_eq_zero_iff.1 (Radar.length_opened_radarPoint [] ..)
  labels_eq := by
    rw [drawRadarChart, opened_orEmptyState rfl, Radar.map_opened_radarLabel, scoredSeries_eq,
      List.map_map, List.map_map]
    · rfl
    · exact List.map_eq_nil_iff.1 (Radar.map_opened_radarLabel [] ..)

/-- A bar chart has a track and a label for each rated item. -/
theorem labelsBeside_drawBarChart :
    LabelsBeside "rect class=\"bar-track\"" "text class=\"bar-label\""
      ((ratedItems s (Item.shown s bindings.primary?)).map fun p => Item.label s p.1)
      (drawBarChart bindings s options) where
  occurrences_eq := by
    rw [(uses_drawBarChart bindings s options).occurrences_eq (by decide), drawBarChart,
      opened_orEmptyState rfl rfl, Bar.length_opened_barTrack, scoredSeries_eq, List.length_map,
      List.length_map]
  labels_eq := by
    rw [drawBarChart, opened_orEmptyState rfl rfl, Bar.map_opened_barLabel, scoredSeries_eq,
      List.map_map, List.map_map]
    rfl

theorem rows_drawBarChart :
    Bar.rows (drawBarChart bindings s options) =
      ((ratedItems s (Item.shown s bindings.primary?)).map fun p => Item.label s p.1).flatMap
        fun label => [some (Text.escape label), .none] := by
  have hseries : Bar.rows (drawBarChart bindings s options) =
      (scoredSeries bindings s).flatMap fun datum => [some (Text.escape datum.label), .none] := by
    rw [drawBarChart]
    cases scoredSeries bindings s with
    | nil => rfl
    | cons datum data => exact Bar.rows_draw ..
  rw [hseries, scoredSeries_eq, List.flatMap_map, List.flatMap_map]

/-! ## Agreement -/

/-- The visuals of scores show a message just if no item has a score. -/
theorem exists_renderer_eq_emptyState_iff {visual : Visual}
    (h : visual ∈ [scoreTiles, progressBar, kpiDashboard, radarChart, barChart, gapChart]) :
    (∃ message, visual.renderer bindings s options = .drawn (emptyState message)) ↔
      ratedItems s (Item.shown s bindings.primary?) = [] := by
  obtain ⟨target, hgap⟩ := gapItems_eq bindings s
  have hrows : (Item.shown s bindings.primary?).filterMap (progressRow? s options) = _ :=
    filterMap_score (progressRow s options)
  have hdrawn (drawing : Drawing) :
      (∃ message, drawing.renderer bindings s options = .drawn (emptyState message)) ↔
        ∃ message, drawing bindings s options = emptyState message := by
    simp [Drawing.renderer]
  simp only [List.mem_cons, List.not_mem_nil, or_false] at h
  rcases h with rfl | rfl | rfl | rfl | rfl | rfl
  · refine (hdrawn drawScoreTiles).trans ((exists_orEmptyState_eq_iff rfl (by decide)).trans ?_)
    rw [filterMap_tile?, List.map_eq_nil_iff]
  · refine (hdrawn drawProgressBar).trans ((exists_orEmptyState_eq_iff rfl (by decide)).trans ?_)
    rw [hrows, List.map_eq_nil_iff]
  · refine (hdrawn drawKpiDashboard).trans ((exists_orEmptyState_eq_iff rfl (by decide)).trans ?_)
    rw [scoredItems_eq, List.map_eq_nil_iff]
  · refine (hdrawn drawRadarChart).trans ((exists_orEmptyState_eq_iff rfl (by decide)).trans ?_)
    rw [scoredSeries_eq, List.map_eq_nil_iff]
  · refine (hdrawn drawBarChart).trans ((exists_orEmptyState_eq_iff rfl (by decide)).trans ?_)
    rw [scoredSeries_eq, List.map_eq_nil_iff]
  · refine (hdrawn drawGapChart).trans ((exists_orEmptyState_eq_iff rfl (by decide)).trans ?_)
    rw [hgap, List.map_eq_nil_iff]

end

/-- **Scored items are shown alike.** Let the rated items be those with a score among the items that
a section shows, which are the first ones that its value holds, as many as it allows. Just if there
is none, each of the six visuals of scores draws a message. In the rendered texts there are as many
tiles, rows, points, tracks and columns as rated items, and they have the labels of these items in
their order. In the place of a label that is missing or a bare number, tiles have no text and rows
have the title of the section. -/
theorem scored_items_shown (bindings : Bindings) (s : Section) (options : RenderOptions) :
    let shown := Item.shown s bindings.primary?
    let rated := ratedItems s shown
    let labels := rated.map fun p => Item.label s p.1
    Item.Shows s bindings.primary? shown ∧
    (∀ visual ∈ [scoreTiles, progressBar, kpiDashboard, radarChart, barChart, gapChart],
      (∃ message, visual.renderer bindings s options = .drawn (emptyState message)) ↔
        rated = []) ∧
    (∀ draw ∈ [drawScoreTiles, drawKpiDashboard],
      LabelsInside "div class=\"score-tile " "div class=\"score-label\""
        (rated.map fun p => labelOr s "" p.1) (draw bindings s options)) ∧
    LabelsInside "div class=\"progress-row\"" "span class=\"progress-label\""
      (rated.map fun p => labelOr s s.title p.1) (drawProgressBar bindings s options) ∧
    (∀ fallback item, labelOr s fallback item =
      if Item.label s item = "" ∨ item.isNumber then fallback else Item.label s item) ∧
    LabelsBeside "circle class=\"radar-point " "text class=\"radar-label\"" labels
      (drawRadarChart bindings s options) ∧
    LabelsBeside "rect class=\"bar-track\"" "text class=\"bar-label\"" labels
      (drawBarChart bindings s options) ∧
    Bar.rows (drawBarChart bindings s options) =
      labels.flatMap (fun label => [some (Text.escape label), .none]) ∧
    ∃ columns, LabelsInside "rect class=\"gap-step\"" "title" columns
        (drawGapChart bindings s options) ∧
      List.Forall₂ (fun label column => ∃ share : Float,
        column = label ++ ": +" ++ coordinate share) labels columns := by
  obtain ⟨columns, hcolumns, hshares⟩ := exists_labelsWithin_drawGapChart bindings s options
  refine ⟨Item.shows_shown s _, fun visual => exists_renderer_eq_emptyState_iff bindings s options,
    ?tiles, ?rows, labelOr_eq s, labelsBeside_drawRadarChart bindings s options,
    labelsBeside_drawBarChart bindings s options, rows_drawBarChart bindings s options, columns,
    ?columns, hshares⟩
  case tiles =>
    rw [List.forall_mem_cons, List.forall_mem_singleton]
    constructor
    · apply (uses_drawScoreTiles bindings s options).labelsInside (by decide)
      rw [labelsWithin_drawScoreTiles, List.map_map]
      rfl
    · apply (uses_drawKpiDashboard bindings s options).labelsInside (by decide)
      rw [labelsWithin_drawKpiDashboard, List.map_map]
      rfl
  case rows =>
    apply (uses_drawProgressBar bindings s options).labelsInside (by decide)
    rw [labelsWithin_drawProgressBar, List.map_map]
    rfl
  case columns => exact (uses_drawGapChart bindings s options).labelsInside (by decide) hcolumns

/-- A label that looks like a tag, a score in a text, an item without a score, a bare number, and an
item with a score behind the four that the section allows. -/
theorem scored_items_shown_of_odd_items :
    let item (name : String) (score : Json) : Json :=
      .object [("name", .string name), ("score", score)]
    let bindings : Bindings := ⟨[("d", some (.array [item "<b>" (.string "40"), item "None" .null,
      .string "Text", .number (.int 7), item "Late" (.number (.int 50))]))]⟩
    let s : Section :=
      { id := "s", title := "Scores", options := .object [("max_items", .number (.int 4))] }
    LabelsInside "div class=\"score-tile " "div class=\"score-label\"" ["<b>", ""]
      (drawKpiDashboard bindings s {}) ∧
    LabelsInside "div class=\"progress-row\"" "span class=\"progress-label\"" ["<b>", "Scores"]
      (drawProgressBar bindings s {}) ∧
    LabelsBeside "circle class=\"radar-point " "text class=\"radar-label\"" ["<b>", "7"]
      (drawRadarChart bindings s {}) := by
  intro item bindings s
  obtain ⟨-, -, htiles, hrows, -, hradar, -⟩ := scored_items_shown bindings s {}
  let rated := ratedItems s (Item.shown s bindings.primary?)
  have hlabels : rated.map (fun p => Item.label s p.1) = ["<b>", "7"] := by decide +kernel
  have hempty : rated.map (fun p => labelOr s "" p.1) = ["<b>", ""] := by decide +kernel
  have htitle : rated.map (fun p => labelOr s s.title p.1) = ["<b>", "Scores"] := by decide +kernel
  refine ⟨?_, htitle ▸ hrows, hlabels ▸ hradar⟩
  exact hempty ▸ htiles drawKpiDashboard (by simp)

end Visual

end DiagnosticReport
