import DiagnosticReport.Proofs.Binary64.Scale
import DiagnosticReport.Proofs.Config.Settings
import DiagnosticReport.Proofs.Markup.Marks
import DiagnosticReport.Visual.Score
import DiagnosticReport.Visual.Series

/-!
# Bands of shown items

Tiles are coloured by the score of an item as it stands, bars and charts by the score on the scale
from 0 to 100. Bounds that are in order lie on that scale, so both ways give one band; hence all
visuals show the items of a section in the same bands, and the slices of a dashboard count its tiles
(`Config.visuals_agree_on_bands`).

The bands are read off what is drawn: a visual shows a band by the style class of an element.
-/

namespace DiagnosticReport

open Binary64

/-! ## Bands of scores -/

/-- The place of a band, worst first. -/
def Band.level : Band → Nat
  | critical => 0
  | attention => 1
  | proficiency => 2
  | excellence => 3

namespace Thresholds

variable {t : Thresholds}

/-- The band of a finite score is the first whose threshold it reaches. -/
theorem classify_of_isFinite {x : Float} (h : Binary64.isFinite x) :
    t.classify x =
      if lessEq t.excellence x then .excellence
      else if lessEq t.proficiency x then .proficiency
      else if lessEq t.attention x then .attention
      else .critical := by
  rw [classify, h]
  rfl

/-- A higher score falls into the same band or into a better one. -/
theorem level_classify_le {x y : Float} (hy : Binary64.isFinite y) (hxy : lessEq x y) :
    (t.classify x).level ≤ (t.classify y).level := by
  have hreach {bound : Float} (h : lessEq bound x) : lessEq bound y := lessEq_trans h hxy
  by_cases hx : Binary64.isFinite x
  · rw [classify_of_isFinite hx, classify_of_isFinite hy]
    split
    · next h => exact (if_pos (hreach h)).symm ▸ Nat.le_refl _
    · split
      · next h =>
        rw [if_pos (hreach h)]
        split <;> decide
      · split
        · next h =>
          rw [if_pos (hreach h)]
          split
          · decide
          · split <;> decide
        · exact Nat.zero_le _
  · rw [classify, eq_false_of_ne_true hx]
    exact Nat.zero_le _

namespace IsOrdered

variable (h : t.IsOrdered)

include h

/-- A score and the score on the scale fall into one band. -/
theorem classify_clampScore (x : Float) : t.classify (Scalar.clampScore x) = t.classify x := by
  have hproficiency := less_trans h.positive h.attention
  have hexcellence := less_trans hproficiency h.proficiency
  have hbelow := lessEq_of_less_of_lessEq h.proficiency h.ceiling
  by_cases hx : Binary64.isFinite x
  · rw [classify_of_isFinite hx, classify_of_isFinite (rank_clampScore hx).1,
      lessEq_clampScore hexcellence h.ceiling hx, lessEq_clampScore hproficiency hbelow hx,
      lessEq_clampScore h.positive (lessEq_of_less_of_lessEq h.attention hbelow) hx]
  · have hzero {bound : Float} (hbound : less 0.0 bound) : lessEq bound 0.0 = false := by
      rw [← Bool.not_eq_true]
      rw [less_iff] at hbound
      rw [lessEq_iff]
      omega
    have hclamp : Scalar.clampScore x = 0.0 := if_neg hx
    rw [hclamp, classify_of_isFinite (by decide), hzero hexcellence, hzero hproficiency,
      hzero h.positive, classify, eq_false_of_ne_true hx]
    rfl

end IsOrdered

end Thresholds

/-! ## Bands read off markup -/

/-- Each band has a style class of its own. -/
theorem Band.styleClass_inj {band other : Band} :
    band.styleClass = other.styleClass ↔ band = other := by
  cases band <;> cases other <;> decide

/-- The band that a style class tells after the kind of the element. -/
def bandMark? (kind styleClass : String) : Option Band :=
  Band.all.find? fun band => styleClass == kind ++ band.styleClass

/-- The band is read back from a style class that ends in it. -/
@[simp] theorem bandMark?_self (kind : String) (band : Band) :
    bandMark? kind (kind ++ band.styleClass) = some band := by
  have hmark (other : Band) :
      (kind ++ band.styleClass == kind ++ other.styleClass) = decide (band = other) := by
    rw [Bool.eq_iff_iff, beq_iff_eq, String.append_right_inj, Band.styleClass_inj,
      decide_eq_true_eq]
  simp only [bandMark?, hmark]
  cases band <;> rfl

/-- The bands of the elements of a kind, in the order in which they stand in the text. -/
def shownBands (kind : String) (m : Markup) : List Band :=
  m.collect fun styleClass _ => bandMark? kind styleClass

section

variable {kind : String}

@[simp] theorem shownBands_append {first second : Markup} :
    shownBands kind (first ++ second) = shownBands kind first ++ shownBands kind second := rfl

theorem shownBands_styled {tag : Tag} {styleClass : String} {body : Markup}
    (h : bandMark? kind styleClass = none) :
    shownBands kind (.styled tag styleClass body) = shownBands kind body := by
  rw [shownBands, Markup.collect_styled, h]
  rfl

theorem shownBands_canvas {width height : Float} {chart title : String} {body : Markup}
    (h : bandMark? kind ("chart " ++ chart) = none) :
    shownBands kind (canvas width height chart title body) = shownBands kind body := by
  rw [shownBands, canvas, Markup.collect_element, Markup.readClass_styleClass, h]
  rfl

theorem shownBands_orEmptyState {α : Type} {message : String} {pieces : List α}
    {draw : List α → Markup} (hmessage : bandMark? kind "empty-state" = none)
    (hnone : shownBands kind (draw []) = []) :
    shownBands kind (orEmptyState message pieces draw) = shownBands kind (draw pieces) := by
  cases pieces with
  | nil => exact (shownBands_styled hmessage).trans hnone.symm
  | cons piece pieces => rfl

/-- Pieces that show one band each show their bands in a row. -/
theorem shownBands_concat_map {α : Type} {draw : α → Markup} {band : α → Band}
    (h : ∀ a, shownBands kind (draw a) = [band a]) (members : List α) :
    shownBands kind (.concat (members.map draw)) = members.map band :=
  Markup.collect_concat_map h members

theorem shownBands_concat_nil {pieces : List Markup}
    (h : ∀ piece ∈ pieces, shownBands kind piece = []) : shownBands kind (.concat pieces) = [] :=
  Markup.collect_concat_eq_nil h

end

/-! ## Scored items -/

namespace Visual

/-- The items with a score, and their scores as they stand. -/
def ratedItems (s : Section) (items : List Json) : List (Json × Float) :=
  items.filterMap fun item => (Item.score? s item).map fun score => (item, score)

section

variable {s : Section} {items : List Json}

/-- Drawing the items with a score is drawing the rated items. -/
theorem filterMap_score {α : Type} (f : Json → Float → α) :
    (items.filterMap fun item => (Item.score? s item).map (f item)) =
      (ratedItems s items).map fun p => f p.1 p.2 := by
  rw [ratedItems, List.map_filterMap]
  simp only [Option.map_map]
  rfl

/-- The scored items are the rated ones with their scores clamped. -/
theorem scoredItems_eq :
    scoredItems s items =
      (ratedItems s items).map fun p => (p.1, Scalar.clampScore p.2) :=
  filterMap_score _

theorem filterMap_tile? {options : RenderOptions} {fallback : String} :
    items.filterMap (tile? s options fallback) =
      (ratedItems s items).map fun p => tile s options fallback p.1 p.2 :=
  filterMap_score _

/-- The tiles of a dashboard show the scores as they stand. -/
theorem filterMap_tile?_scoredItems {options : RenderOptions} {fallback : String} :
    ((scoredItems s items).filterMap fun (item, _) => tile? s options fallback item) =
      (ratedItems s items).map fun p => tile s options fallback p.1 p.2 := by
  rw [← filterMap_tile?, scoredItems, List.filterMap_filterMap]
  congr 1
  funext item
  cases hscore : Item.score? s item <;> simp [tile?, hscore]

end

/-! ## Bands by visual -/

section

variable (s : Section) (options : RenderOptions)

/-- A tile shows the band of its item. -/
theorem shownBands_tile (fallback : String) (item : Json) (score : Float) :
    shownBands "score-tile " (tile s options fallback item score) =
      [Item.band options.thresholds item score] := by
  rw [shownBands, tile, Markup.collect_styled, bandMark?_self]
  cases Item.trajectory? item (some score) with
  | none => rfl
  | some t => cases t <;> rfl

/-- A progress bar shows the band of the clamped score. -/
theorem shownBands_progressRow (item : Json) (score : Float) :
    shownBands "progress-fill " (progressRow s options item score) =
      [Item.band options.thresholds item (Scalar.clampScore score)] := by
  simp only [shownBands, progressRow, Markup.collect_styled, Markup.collect_append,
    Markup.collect_element, Markup.readClass_styleClass, bandMark?_self]
  rfl

/-- A corner of a radar chart shows the band of its score. -/
theorem shownBands_scorePoint (t : Thresholds) (v : Radar.Vertex Float) :
    shownBands "radar-point " (Radar.scorePoint t v) = [t.classify v.score] := by
  simp only [shownBands, Radar.scorePoint, Markup.collect_element, Markup.readClass_styleClass,
    bandMark?_self]
  rfl

/-- A bar shows the band of its value. -/
theorem shownBands_drawBar (t : Thresholds) (width : Float) (bar : Bar.Rect Float) :
    shownBands "bar " (Bar.drawBar width t bar) = [t.classify bar.value] := by
  simp only [shownBands, Bar.drawBar, Markup.collect_append, Markup.collect_element,
    Markup.collect_leaf, Markup.readClass_styleClass, bandMark?_self]
  rfl

end

section

variable (bindings : Bindings) (s : Section) (options : RenderOptions)

theorem shownBands_drawScoreTiles :
    shownBands "score-tile " (drawScoreTiles bindings s options) =
      (ratedItems s (Item.shown s bindings.primary?)).map fun p =>
        Item.band options.thresholds p.1 p.2 := by
  rw [drawScoreTiles, shownBands_orEmptyState rfl rfl, filterMap_tile?]
  exact shownBands_concat_map (fun p => shownBands_tile ..) _

theorem shownBands_drawProgressBar :
    shownBands "progress-fill " (drawProgressBar bindings s options) =
      (ratedItems s (Item.shown s bindings.primary?)).map fun p =>
        Item.band options.thresholds p.1 (Scalar.clampScore p.2) := by
  have hrows : (Item.shown s bindings.primary?).filterMap (progressRow? s options) = _ :=
    filterMap_score (progressRow s options)
  rw [drawProgressBar, shownBands_orEmptyState rfl rfl, hrows]
  exact shownBands_concat_map (fun p => shownBands_progressRow ..) _

/-- A donut shows no band as a tile. -/
theorem shownBands_donut (slices : List (Donut.Slice Float)) (config : Donut.Config Float)
    (center : Option String) : shownBands "score-tile " (Donut.draw slices config center) = [] := by
  have hring (empty : Bool) :
      shownBands "score-tile " (if empty then Donut.emptyRing config else .empty) = [] := by
    cases empty <;> rfl
  have hsegments (segments : List (Donut.Segment Float)) :
      shownBands "score-tile " (.concat (segments.map (Donut.drawSegment config))) = [] :=
    shownBands_concat_nil (List.forall_mem_map.2 fun _ _ => rfl)
  have hcenter :
      shownBands "score-tile " (.optional (center.map (Donut.centerText config))) = [] := by
    cases center <;> rfl
  have hlegend (segments : List (Donut.Segment Float)) :
      shownBands "score-tile " (.concat (segments.mapIdx (Donut.legendRow config))) = [] := by
    refine shownBands_concat_nil fun piece h => ?_
    obtain ⟨i, hi, rfl⟩ := List.mem_mapIdx.1 h
    rfl
  rw [Donut.draw, shownBands_canvas rfl]
  simp only [shownBands_append, hring, hsegments, hcenter, hlegend, List.append_nil]

theorem shownBands_drawKpiDashboard :
    shownBands "score-tile " (drawKpiDashboard bindings s options) =
      (ratedItems s (Item.shown s bindings.primary?)).map fun p =>
        Item.band options.thresholds p.1 p.2 := by
  have hdashboard (items : List Json) :
      shownBands "score-tile " (dashboard s options (scoredItems s items)) =
        (ratedItems s items).map fun p => Item.band options.thresholds p.1 p.2 := by
    rw [dashboard, shownBands_styled rfl, shownBands_append, shownBands_styled rfl,
      shownBands_append, shownBands_donut, shownBands_styled rfl, shownBands_styled rfl,
      filterMap_tile?_scoredItems]
    exact shownBands_concat_map (fun p => shownBands_tile ..) _
  rw [drawKpiDashboard, shownBands_orEmptyState rfl (hdashboard []), hdashboard]

end

/-! ## Bands in charts -/

/-- A radar chart shows the bands of its clamped values, in their order. -/
theorem shownBands_radar (axes : List (Datum Float)) (config : Radar.Config Float)
    (t : Thresholds) (color : String) :
    shownBands "radar-point " (Radar.draw axes config t color) =
      axes.map fun axis => t.classify (Scalar.clampScore axis.value) := by
  have hrings (center : Point Float) (rings : List Float) : shownBands "radar-point " (.concat
      (rings.map fun r => Radar.circleAround center "radar-ring" r "#e5e7eb" "1" [])) = [] :=
    shownBands_concat_nil (List.forall_mem_map.2 fun _ _ => rfl)
  have hspokes (center : Point Float) (spokes : List (Point Float)) :
      shownBands "radar-point " (.concat (spokes.map (Radar.spokeLine center))) = [] :=
    shownBands_concat_nil (List.forall_mem_map.2 fun _ _ => rfl)
  have hindustry (center : Point Float) (radius : Float) (stroke width : String)
      (more : List (Attribute × String)) : shownBands "radar-point "
        (Radar.circleAround center "radar-ref radar-ref-industry" radius stroke width more) = [] :=
    rfl
  have hquartile (center : Point Float) (radius : Float) (stroke width : String)
      (more : List (Attribute × String)) : shownBands "radar-point "
        (Radar.circleAround center "radar-ref radar-ref-top-quartile" radius stroke width more) =
      [] := rfl
  have harea (vertices : List (Radar.Vertex Float)) :
      shownBands "radar-point " (Radar.scoreArea vertices color) = [] := by
    cases vertices <;> rfl
  have hlabels (labels : List (Radar.Label Float)) :
      shownBands "radar-point " (.concat (labels.map Radar.labelText)) = [] :=
    shownBands_concat_nil (List.forall_mem_map.2 fun _ _ => rfl)
  have hlegend : shownBands "radar-point " (Radar.legend config) = [] := rfl
  have hpoints (vertices : List (Radar.Vertex Float)) :
      shownBands "radar-point " (.concat (vertices.map (Radar.scorePoint t))) =
        vertices.map fun v => t.classify v.score :=
    shownBands_concat_map (fun v => shownBands_scorePoint t v) vertices
  have hvertices : (Radar.geometry axes config).vertices.map (fun v => t.classify v.score) =
      axes.map fun axis => t.classify (Scalar.clampScore axis.value) := by
    refine List.ext_getElem (by simp [Radar.geometry]) fun i hi hi' => ?_
    simp only [Radar.geometry, List.getElem_map, List.getElem_mapIdx]
    rfl
  rw [Radar.draw, shownBands_canvas rfl]
  simp only [shownBands_append, hrings, hspokes, hindustry, hquartile, harea, hpoints, hlabels,
    hlegend, hvertices, List.nil_append, List.append_nil]

/-- A bar chart shows the bands of its clamped values, in their order. -/
theorem shownBands_bars (data : List (Datum Float)) (config : Bar.Config Float)
    (t : Thresholds) :
    shownBands "bar " (Bar.draw data config t) =
      data.map fun datum => t.classify (Scalar.clampScore datum.value) := by
  have hvalues : (Bar.geometry data config).map (fun bar => t.classify bar.value) =
      data.map fun datum => t.classify (Scalar.clampScore datum.value) := by
    refine List.ext_getElem (by simp [Bar.geometry]) fun i hi hi' => ?_
    simp only [Bar.geometry, List.getElem_map, List.getElem_mapIdx]
    rfl
  rw [Bar.draw, shownBands_canvas rfl, ← hvalues]
  exact shownBands_concat_map (fun bar => shownBands_drawBar t config.chartWidth bar) _

section

variable (bindings : Bindings) (s : Section) (options : RenderOptions)

/-- The series of the charts are the rated items. -/
theorem scoredSeries_eq :
    scoredSeries bindings s =
      (ratedItems s (Item.shown s bindings.primary?)).map fun p => ⟨Item.label s p.1, p.2⟩ :=
  filterMap_score _

theorem shownBands_drawRadarChart :
    shownBands "radar-point " (drawRadarChart bindings s options) =
      (ratedItems s (Item.shown s bindings.primary?)).map fun p =>
        options.thresholds.classify (Scalar.clampScore p.2) := by
  rw [drawRadarChart, shownBands_orEmptyState rfl, shownBands_radar, scoredSeries_eq, List.map_map]
  · rfl
  · exact shownBands_radar [] ..

theorem shownBands_drawBarChart :
    shownBands "bar " (drawBarChart bindings s options) =
      (ratedItems s (Item.shown s bindings.primary?)).map fun p =>
        options.thresholds.classify (Scalar.clampScore p.2) := by
  rw [drawBarChart, shownBands_orEmptyState rfl, shownBands_bars, scoredSeries_eq, List.map_map]
  · rfl
  · exact shownBands_bars [] ..

end

/-! ## Agreement -/

/-- Every item is in one of the four bands. -/
theorem sum_count_bands (bands : List Band) :
    bands.count .excellence + bands.count .proficiency + bands.count .attention +
      bands.count .critical = bands.length := by
  induction bands with
  | nil => rfl
  | cons band bands ih =>
    simp only [List.count_cons, List.length_cons]
    cases band <;> simp <;> omega

section

variable {s : Section} {options : RenderOptions} (h : options.thresholds.IsOrdered)

include h

/-- Clamping a score does not change the band of its item. -/
theorem band_clampScore (item : Json) (score : Float) :
    Item.band options.thresholds item (Scalar.clampScore score) =
      Item.band options.thresholds item score := by
  rw [Item.band, Item.band, h.classify_clampScore]

/-- The slices of a dashboard count the bands of its items. -/
theorem bandSlice_eq (items : List Json) (band : Band) :
    bandSlice options.thresholds (scoredItems s items) band =
      { label := band.label,
        value := Float.ofNat (((ratedItems s items).map fun p =>
          Item.band options.thresholds p.1 p.2).count band),
        color := some band.color } := by
  have hcount : bandCount options.thresholds (scoredItems s items) band =
      ((ratedItems s items).map fun p => Item.band options.thresholds p.1 p.2).count band := by
    rw [scoredItems_eq, bandCount, List.countP_map, List.count, List.countP_map]
    congr 1
    funext p
    simp only [Function.comp_apply, band_clampScore h]
    rfl
  rw [bandSlice, hcount]

/-- A dashboard with items is a donut of the bands of its tiles beside these tiles. -/
theorem exists_drawKpiDashboard_eq {bindings : Bindings}
    (hscored : ratedItems s (Item.shown s bindings.primary?) ≠ []) :
    let bands := (ratedItems s (Item.shown s bindings.primary?)).map fun p =>
      Item.band options.thresholds p.1 p.2
    ∃ measures center caption tiles,
      drawKpiDashboard bindings s options =
        .styled .div "kpi-dashboard"
          (.styled .div "kpi-summary"
            (Donut.draw (Band.all.map fun band =>
              { label := band.label, value := Float.ofNat (bands.count band),
                color := some band.color }) measures center ++ caption) ++ tiles) ∧
      shownBands "score-tile " tiles = bands := by
  intro bands
  have hnonempty : ¬ (scoredItems s (Item.shown s bindings.primary?)).isEmpty := by
    rw [scoredItems_eq, List.isEmpty_iff, List.map_eq_nil_iff]
    exact hscored
  have htiles : shownBands "score-tile " (.styled .div "score-tiles"
      (.concat ((ratedItems s (Item.shown s bindings.primary?)).map fun p =>
        tile s options "" p.1 p.2))) = bands := by
    rw [shownBands_styled rfl]
    exact shownBands_concat_map (fun p => shownBands_tile ..) _
  have hdraw : drawKpiDashboard bindings s options =
      dashboard s options (scoredItems s (Item.shown s bindings.primary?)) := if_neg hnonempty
  have hslices : bandSlice options.thresholds (scoredItems s (Item.shown s bindings.primary?)) =
      fun band => { label := band.label, value := Float.ofNat (bands.count band),
                    color := some band.color } := funext (bandSlice_eq h _)
  rw [hdraw, dashboard, filterMap_tile?_scoredItems, hslices]
  exact ⟨_, _, _, _, rfl, htiles⟩

end

end Visual

open Visual

/-- **Bands of the visuals.** Under accepted settings a higher score never falls into a lower band,
and the score on the scale falls into the band of the score. So the score tiles, the progress bars
and the dashboard of a section show its scored items in the same bands, and so do the radar and the
bar chart for items without a band of their own. The slices of the dashboard count its tiles by
band, and all of these together are the scored items. -/
theorem Config.visuals_agree_on_bands {config : Config} {settings : Settings}
    (h : config.resolve = .ok settings) :
    let t := settings.options.thresholds
    (∀ x y, isFinite x → isFinite y → lessEq x y →
      (t.classify x).level ≤ (t.classify y).level) ∧
    (∀ x, t.classify (Scalar.clampScore x) = t.classify x) ∧
    ∀ (bindings : Bindings) (s : Section) (options : RenderOptions), options.thresholds = t →
      let scored := ratedItems s (Item.shown s bindings.primary?)
      let bands := shownBands "score-tile " (drawScoreTiles bindings s options)
      let points := shownBands "radar-point " (drawRadarChart bindings s options)
      let bars := shownBands "bar " (drawBarChart bindings s options)
      bands = scored.map (fun (item, score) => Item.band t item score) ∧
      shownBands "progress-fill " (drawProgressBar bindings s options) = bands ∧
      shownBands "score-tile " (drawKpiDashboard bindings s options) = bands ∧
      points.length = scored.length ∧ bars.length = scored.length ∧
      (∀ (i : Nat) (item : Json) (score : Float), scored[i]? = some (item, score) →
        (item.stringAt? "score_band").bind Band.parse? = .none →
        points[i]? = bands[i]? ∧ bars[i]? = bands[i]?) ∧
      (scored ≠ [] → ∃ measures center caption tiles,
        drawKpiDashboard bindings s options =
          .styled .div "kpi-dashboard"
            (.styled .div "kpi-summary"
              (Donut.draw (Band.all.map fun band =>
                { label := band.label, value := Float.ofNat (bands.count band),
                  color := some band.color }) measures center ++ caption) ++ tiles) ∧
        shownBands "score-tile " tiles = bands) ∧
      bands.count .excellence + bands.count .proficiency + bands.count .attention +
        bands.count .critical = scored.length := by
  intro t
  obtain ⟨hsound, -, -, hoptions, -⟩ := resolve_eq_ok.1 h
  have ht : t.IsOrdered := by
    show settings.options.thresholds.IsOrdered
    rw [hoptions]
    exact hsound.thresholds
  refine ⟨fun x y _ hy hxy => Thresholds.level_classify_le hy hxy, ht.classify_clampScore, ?_⟩
  rintro bindings s options hthresholds scored bands points bars
  have hordered : options.thresholds.IsOrdered := hthresholds ▸ ht
  have hbands : bands = scored.map fun p => Item.band options.thresholds p.1 p.2 :=
    shownBands_drawScoreTiles bindings s options
  have hpoints : points = scored.map fun p => options.thresholds.classify (Scalar.clampScore p.2) :=
    shownBands_drawRadarChart bindings s options
  have hbars : bars = scored.map fun p => options.thresholds.classify (Scalar.clampScore p.2) :=
    shownBands_drawBarChart bindings s options
  refine ⟨hthresholds ▸ hbands, ?progress, ?dashboard, ?points, ?bars, ?charts, ?donut, ?sum⟩
  case progress =>
    rw [shownBands_drawProgressBar, hbands]
    simp only [band_clampScore hordered]
    rfl
  case dashboard => exact (shownBands_drawKpiDashboard bindings s options).trans hbands.symm
  case points => rw [hpoints, List.length_map]
  case bars => rw [hbars, List.length_map]
  case charts =>
    -- Charts know scores only, so what an item says of its band is lost on them.
    intro i item score hi hown
    have hband : options.thresholds.classify (Scalar.clampScore score) =
        Item.band options.thresholds item score := by
      rw [hordered.classify_clampScore, Item.band, hown]
      rfl
    rw [hpoints, hbars, hbands, List.getElem?_map, List.getElem?_map, hi]
    simp only [Option.map_some, hband, and_self]
  case donut =>
    intro hscored
    rw [hbands]
    exact exists_drawKpiDashboard_eq hordered hscored
  case sum => rw [sum_count_bands, hbands, List.length_map]

/-- A raised bound, and items with a score above the scale and with a band of their own. -/
theorem Config.visuals_agree_on_bands_of_raised_bound :
    let config : Config := {
      bands := some { proficiency := some 70.0 }
      discovery := some { included := ["?"] } }
    let item (score : Int) (band : Json) : Json :=
      .object [("score", .number (.int score)), ("score_band", band)]
    let bindings : Bindings := ⟨[("d", some (.array [item 65 .null, item 150 (.string "top"),
      item 30 (.string " Proficiency ")]))]⟩
    let s : Section := { id := "s" }
    ∃ settings, config.resolve = .ok settings ∧
      shownBands "score-tile " (drawScoreTiles bindings s settings.options) =
        [.attention, .excellence, .proficiency] ∧
      shownBands "progress-fill " (drawProgressBar bindings s settings.options) =
        [.attention, .excellence, .proficiency] ∧
      (shownBands "bar " (drawBarChart bindings s settings.options))[1]? = some .excellence := by
  intro config item bindings s
  have hincluded : config.includePatterns.mapM Glob.parse = .ok [⟨"?", [.anyByte]⟩] := by cbv
  have hexcluded : config.excludePatterns.mapM Glob.parse = .ok [] := rfl
  have hresolve : config.resolve = .ok ⟨config.effective, [⟨"?", [.anyByte]⟩], [], .none⟩ := by
    refine resolve_eq_ok.2 ⟨?_, ⟨hincluded, rfl⟩, ⟨hexcluded, rfl⟩, rfl, rfl⟩
    exact {
      thresholds := {
        positive := (by decide : less 0.0 40.0)
        attention := (by decide : less 40.0 70.0)
        proficiency := (by decide : less 70.0 80.0)
        ceiling := (by decide : lessEq 80.0 100.0) }
      average := (by decide : lessEq 0.0 60.0)
      quartile := (by decide : less 60.0 75.0)
      top := (by decide : lessEq 75.0 100.0)
      radar := (by decide : lessEq 100.0 400.0 ∧ lessEq 400.0 2000.0)
      bar := (by decide : lessEq 100.0 520.0 ∧ lessEq 520.0 2000.0)
      columns := (by decide : 1 ≤ 6 ∧ 6 ≤ 20)
      brand := List.forall_mem_nil _
      included := exists_mapM_eq_ok.1 ⟨_, hincluded⟩
      excluded := exists_mapM_eq_ok.1 ⟨_, hexcluded⟩ }
  obtain ⟨-, -, hvisuals⟩ := visuals_agree_on_bands hresolve
  obtain ⟨hbands, hprogress, -, -, -, hcharts, -⟩ := hvisuals bindings s config.effective rfl
  have hshown : shownBands "score-tile " (drawScoreTiles bindings s config.effective) =
      [.attention, .excellence, .proficiency] := hbands.trans rfl
  have hbar := (hcharts 1 (item 150 (.string "top")) _ rfl rfl).2
  exact ⟨_, hresolve, hshown, hprogress.trans hshown, hbar.trans (hshown ▸ rfl)⟩

end DiagnosticReport
