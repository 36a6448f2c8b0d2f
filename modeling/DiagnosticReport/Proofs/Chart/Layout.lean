import DiagnosticReport.Chart.Bar
import DiagnosticReport.Chart.Timeline
import DiagnosticReport.Proofs.Chart.Contiguous
import DiagnosticReport.Proofs.Chart.Exact

/-!
# Bars and phases on their canvas

Without rounding the bars of a chart follow each other down the canvas and stay inside it, whatever
width is asked for and whatever the values are. The phases of a timeline share its track in blocks
of equal width. Both are pieces one after the other: a bar together with the gap below it, and a
block of the track.
-/

namespace DiagnosticReport

open Extended

/-! ## Bars -/

namespace Bar

section

variable {α β : Type} (f : α → β)

def Config.map (config : Config α) : Config β :=
  ⟨f config.width, f config.barHeight, f config.gap, f config.labelWidth, f config.valueWidth⟩

def Rect.map (bar : Rect α) : Rect β :=
  { label := bar.label, value := f bar.value, x := f bar.x, y := f bar.y, width := f bar.width,
    height := f bar.height, valueX := f bar.valueX }

end

/-- The exact measures of a canvas of a width. -/
def Config.ofWidth (width : ℚ) : Config ℚ :=
  { width, barHeight := 22, gap := 10, labelWidth := min (width * 0.3) 180, valueWidth := 44 }

/-- The room that is left for a bar of 100. -/
def Config.track (config : Config ℚ) : ℚ :=
  config.width - config.labelWidth - config.valueWidth

/-- The bar of a score at a position. -/
def rect (config : Config ℚ) (i : Nat) (datum : Datum (Extended ℚ)) : Rect ℚ :=
  let value := onScale 100 datum.value
  let width := value / 100 * config.track
  { label := datum.label, value, x := config.labelWidth,
    y := config.gap + i * (config.barHeight + config.gap), width, height := config.barHeight,
    valueX := config.labelWidth + width + 6 }

theorem literals : (0.3 : Extended ℚ) = finite 0.3 ∧ (6.0 : Extended ℚ) = finite 6 ∧
    (10.0 : Extended ℚ) = finite 10 ∧ (22.0 : Extended ℚ) = finite 22 ∧
    (44.0 : Extended ℚ) = finite 44 ∧ (100.0 : Extended ℚ) = finite 100 ∧
    (180.0 : Extended ℚ) = finite 180 ∧ (520.0 : Extended ℚ) = finite 520 := by
  simp only [ofScientific_eq]
  norm_num

theorem withWidth_eq (width : Extended ℚ) :
    Config.withWidth width = (Config.ofWidth (extent 100 520 width)).map finite := by
  obtain ⟨hshare, -, hten, hheight, hvalue, hbound, hlabel, hdefault⟩ := literals
  simp only [Config.withWidth, hshare, hten, hheight, hvalue, hbound, hlabel, hdefault, extent_eq,
    finite_mul_finite, smaller_finite]
  rfl

theorem track_pos {width : ℚ} (hwidth : 100 ≤ width) : 0 < (Config.ofWidth width).track := by
  -- labels take at most three tenths of the width
  have hlabel : min (width * 0.3) 180 ≤ width * 0.3 := min_le_left ..
  show 0 < width - min (width * 0.3) 180 - 44
  linarith

section

variable {config : Config ℚ} (htrack : 0 < config.track)

include htrack

theorem chartWidth_eq : (config.map finite).chartWidth = finite config.track := by
  rw [Config.chartWidth, zero_eq]
  simp only [Config.map, finite_sub_finite, larger_finite]
  exact congrArg finite (max_eq_left htrack.le)

/-- In exact numbers, the code places a bar where its index says. -/
theorem bar_eq (i : Nat) (datum : Datum (Extended ℚ)) :
    bar (config.map finite) i datum = (rect config i datum).map finite := by
  obtain ⟨-, hsix, -, -, -, hbound, -, -⟩ := literals
  have hhundred : finite (onScale 100 datum.value) / (100.0 : Extended ℚ) =
      finite (onScale 100 datum.value / 100) := by
    rw [hbound, finite_div_finite (by norm_num)]
  simp only [bar, Extended.clampScore_eq, hhundred, chartWidth_eq htrack, hsix]
  rfl

theorem geometry_eq (data : List (Datum (Extended ℚ))) :
    geometry data (config.map finite) = (data.mapIdx (rect config)).map (Rect.map finite) := by
  refine List.ext_getElem (by simp [geometry]) fun i _ _ => ?_
  simp [geometry, bar_eq htrack]

end

/-- Bars one below the other, from the top of a canvas to its bottom, one for each datum. -/
structure IsColumn (config : Config ℚ) (height : ℚ) (data : List (Datum (Extended ℚ)))
    (bars : List (Rect ℚ)) : Prop where
  map_value : bars.map (fun bar => (bar.label, bar.value)) =
    data.map fun datum => (datum.label, onScale 100 datum.value)
  first : ∀ bar ∈ bars.head?, bar.y = config.gap
  separated : bars.IsChain fun bar next => next.y - (bar.y + bar.height) = config.gap
  last : ∀ bar ∈ bars.getLast?, height - (bar.y + bar.height) = config.gap
  inside : ∀ bar ∈ bars, 0 ≤ bar.x ∧ 0 ≤ bar.width ∧ bar.x + bar.width ≤ bar.valueX ∧
    bar.valueX ≤ config.width
  monotone : ∀ bar ∈ bars, ∀ other ∈ bars, bar.value ≤ other.value → bar.width ≤ other.width
  grows : ∀ p ∈ data.zip bars, ∀ q ∈ data.zip bars, ∀ x y, p.1.value = finite x →
    q.1.value = finite y → x ≤ y → p.2.width ≤ q.2.width
  full_iff : ∀ bar ∈ bars, bar.width = config.track ↔ bar.value = 100

section

variable (config : Config ℚ) (data : List (Datum (Extended ℚ)))

/-- Each bar takes up its height and the gap below it. -/
theorem contiguous_rect :
    Contiguous Rect.y (fun bar => bar.y + bar.height + config.gap) config.gap
      (data.mapIdx (rect config)) := by
  let top (i : ℕ) : ℚ := config.gap + i * (config.barHeight + config.gap)
  have hnext (i : ℕ) : top i + config.barHeight + config.gap = top (i + 1) := by
    simp only [top]
    push_cast
    ring
  have hfirst : top 0 = config.gap := by
    simp [top]
  have hpieces : Contiguous Rect.y (fun bar => bar.y + bar.height + config.gap) (top 0)
      (data.mapIdx (rect config)) :=
    Contiguous.mapIdx (rect config) top (fun _ _ => rfl) (fun i _ => hnext i) data
  rwa [hfirst] at hpieces

/-- A bar is as long as its clamped value says and starts at the labels. -/
theorem rect_of_mem {bar : Rect ℚ} (h : bar ∈ data.mapIdx (rect config)) :
    (0 ≤ bar.value ∧ bar.value ≤ 100) ∧ bar.x = config.labelWidth ∧
      bar.height = config.barHeight ∧ bar.width = bar.value / 100 * config.track ∧
      bar.valueX = bar.x + bar.width + 6 := by
  obtain ⟨i, hi, rfl⟩ := List.mem_mapIdx.1 h
  exact ⟨onScale_mem (by norm_num) data[i].value, rfl, rfl, rfl, rfl⟩

theorem width_of_mem_zip {p : Datum (Extended ℚ) × Rect ℚ}
    (h : p ∈ data.zip (data.mapIdx (rect config))) :
    p.2.width = onScale 100 p.1.value / 100 * config.track := by
  obtain ⟨i, hi, rfl⟩ := List.mem_iff_getElem.1 h
  simp [rect]

end

/-- Bars fit if there is room for the labels on both sides of the track. -/
theorem isColumn_mapIdx_rect {config : Config ℚ} (hlabel : 0 ≤ config.labelWidth)
    (htrack : 0 < config.track) (hvalue : 6 ≤ config.valueWidth)
    (data : List (Datum (Extended ℚ))) :
    IsColumn config (config.gap + data.length * (config.barHeight + config.gap)) data
      (data.mapIdx (rect config)) := by
  have hpieces := contiguous_rect config data
  have hlength : ∀ bar ∈ data.mapIdx (rect config),
      bar.y + bar.height + config.gap - bar.y = config.barHeight + config.gap := by
    intro bar hbar
    obtain ⟨-, -, hheight, -, -⟩ := rect_of_mem config data hbar
    rw [hheight]
    ring
  exact
    { map_value := by
        refine List.ext_getElem (by simp) fun i _ _ => ?_
        simp [rect]
      first := fun bar hbar => by
        have hhead := hpieces.head?_eq (List.ne_nil_of_mem (List.mem_of_mem_head? hbar))
        rw [hbar] at hhead
        exact Option.some.inj hhead
      separated := hpieces.isChain.imp fun bar next hnext => by
        rw [hnext]
        ring
      last := fun bar hbar => by
        have hlast := hpieces.getLast?_eq_of_length hlength
          (List.ne_nil_of_mem (List.mem_of_mem_getLast? hbar))
        rw [hbar, List.length_mapIdx] at hlast
        rw [← Option.some.inj hlast]
        ring
      inside := fun bar hbar => by
        obtain ⟨⟨hlow, hhigh⟩, hx, -, hwidth, htext⟩ := rect_of_mem config data hbar
        have hshort : bar.width ≤ config.track := by
          rw [hwidth]
          exact mul_le_of_le_one_left htrack.le ((div_le_one (by norm_num)).2 hhigh)
        have hpos : 0 ≤ bar.width := by
          rw [hwidth]
          positivity
        have hroom : config.labelWidth + config.track + config.valueWidth = config.width := by
          rw [Config.track]
          ring
        exact ⟨hx ▸ hlabel, hpos, by linarith, by linarith⟩
      monotone := fun bar hbar other hother hle => by
        obtain ⟨-, -, -, hwidth, -⟩ := rect_of_mem config data hbar
        obtain ⟨-, -, -, hlonger, -⟩ := rect_of_mem config data hother
        rw [hwidth, hlonger]
        gcongr
      grows := fun p hp q hq x y hx hy hle => by
        have hvalue := onScale_mono 100 hle
        rw [width_of_mem_zip config data hp, width_of_mem_zip config data hq, hx, hy]
        gcongr
      full_iff := fun bar hbar => by
        obtain ⟨-, -, -, hwidth, -⟩ := rect_of_mem config data hbar
        rw [hwidth, mul_eq_right₀ htrack.ne', div_eq_one_iff_eq (by norm_num)] }

end Bar

/-! ## Phases -/

namespace Timeline

section

variable {α β : Type} (f : α → β)

def Config.map (config : Config α) : Config β :=
  ⟨f config.width, f config.height, f config.padding⟩

def Block.map (block : Block α) : Block β :=
  { index := block.index, phase := block.phase, x := f block.x, width := f block.width }

end

/-- The exact measures of a canvas of a width. -/
def Config.ofWidth (width : ℚ) : Config ℚ :=
  { width, height := 120, padding := 28 }

/-- The length between the markers. -/
def Config.between (config : Config ℚ) : ℚ :=
  config.width - 2 * config.padding

/-- The block of one phase of several. -/
def piece (config : Config ℚ) (n i : Nat) (phase : Phase) : Block ℚ :=
  let width := config.between / n
  { index := i, phase, x := config.padding + i * width, width }

theorem literals : (2.0 : Extended ℚ) = finite 2 ∧ (28.0 : Extended ℚ) = finite 28 ∧
    (120.0 : Extended ℚ) = finite 120 ∧ (200.0 : Extended ℚ) = finite 200 ∧
    (720.0 : Extended ℚ) = finite 720 := by
  simp only [ofScientific_eq]
  norm_num

theorem withWidth_eq (width : Extended ℚ) :
    Config.withWidth width = (Config.ofWidth (extent 200 720 width)).map finite := by
  obtain ⟨-, hpadding, hheight, hbound, hdefault⟩ := literals
  simp only [Config.withWidth, hpadding, hheight, hbound, hdefault, extent_eq]
  rfl

theorem between_pos {width : ℚ} (hwidth : 200 ≤ width) : 0 < (Config.ofWidth width).between := by
  show 0 < width - 2 * 28
  linarith

/-- Blocks of equal width, one for each phase, from one marker to the other. -/
structure IsTiling (config : Config ℚ) (phases : List Phase) (blocks : List (Block ℚ)) : Prop where
  map_phase : blocks.map (fun block => (block.index, block.phase)) = phases.mapIdx Prod.mk
  width_pos : 0 < config.between / phases.length
  width_eq : ∀ block ∈ blocks, block.width = config.between / phases.length
  first : blocks.head?.map Block.x = some config.padding
  chain : blocks.IsChain fun block next => next.x = block.x + block.width
  last : (blocks.getLast?.map fun block => block.x + block.width) =
    some (config.width - config.padding)

section

variable {config : Config ℚ} (hbetween : 0 < config.between)

include hbetween

theorem blocks_eq {phases : List Phase} (hne : phases ≠ []) :
    blocks phases (config.map finite) =
      (phases.mapIdx (piece config phases.length)).map (Block.map finite) := by
  have htrack : (config.map finite).trackWidth = finite config.between := by
    rw [Config.trackWidth, literals.1, zero_eq]
    simp only [Config.map, finite_sub_finite, finite_mul_finite, larger_finite]
    exact congrArg finite (max_eq_left hbetween.le)
  have hwidth : (config.map finite).trackWidth / Scalar.ofNat phases.length =
      finite (config.between / phases.length) := by
    rw [htrack]
    apply finite_div_finite
    exact_mod_cast mt List.length_eq_zero_iff.1 hne
  refine List.ext_getElem (by simp [blocks]) fun i _ _ => ?_
  simp only [blocks, hwidth, List.getElem_mapIdx, List.getElem_map]
  rfl

/-- The blocks of phases tile the track. -/
theorem isTiling_mapIdx_piece {phases : List Phase} (hne : phases ≠ []) :
    IsTiling config phases (phases.mapIdx (piece config phases.length)) := by
  have hlength : (0 : ℚ) < phases.length := by
    exact_mod_cast List.length_pos_iff.2 hne
  let left (i : ℕ) : ℚ := config.padding + i * (config.between / phases.length)
  have hnext (i : ℕ) : left i + config.between / phases.length = left (i + 1) := by
    simp only [left]
    push_cast
    ring
  have hfirst : left 0 = config.padding := by
    simp [left]
  have hpieces : Contiguous Block.x (fun block => block.x + block.width) (left 0)
      (phases.mapIdx (piece config phases.length)) :=
    Contiguous.mapIdx (piece config phases.length) left (fun _ _ => rfl) (fun i _ => hnext i) phases
  have hwidth : ∀ block ∈ phases.mapIdx (piece config phases.length),
      block.width = config.between / phases.length := by
    intro block hblock
    obtain ⟨i, hi, rfl⟩ := List.mem_mapIdx.1 hblock
    rfl
  have hblocks : phases.mapIdx (piece config phases.length) ≠ [] := by
    simpa using hne
  rw [hfirst] at hpieces
  exact
    { map_phase := by
        refine List.ext_getElem (by simp) fun i _ _ => ?_
        simp [piece]
      width_pos := div_pos hbetween hlength
      width_eq := hwidth
      first := hpieces.head?_eq hblocks
      chain := hpieces.isChain
      last := by
        rw [hpieces.getLast?_eq_of_length (fun block hblock => by
          rw [hwidth block hblock, add_sub_cancel_left]) hblocks, List.length_mapIdx,
          mul_div_cancel₀ _ hlength.ne', Config.between]
        congr 1
        ring }

end

end Timeline

/-- **Bars and phases fit their canvas.** Without rounding, whatever width is asked for, a bar chart
has one bar for each datum. The bars lie inside the canvas with gaps between them and at both ends,
as long as their scores demand. The phases of a timeline share the track in blocks of equal width
from one marker to the other. -/
theorem layouts_exact (width : Extended ℚ) (data : List (Datum (Extended ℚ)))
    (phases : List Timeline.Phase) :
    (∃ (config : Bar.Config ℚ) (height : ℚ) (bars : List (Bar.Rect ℚ)),
      Bar.Config.withWidth width = config.map finite ∧
      Bar.geometry data (.withWidth width) = bars.map (Bar.Rect.map finite) ∧
      (Bar.Config.withWidth width).chartWidth = finite config.track ∧ 0 < config.track ∧
      (Bar.Config.withWidth width).height (Bar.geometry data (.withWidth width)).length =
        finite height ∧
      Bar.IsColumn config height data bars) ∧
    (phases ≠ [] → ∃ (config : Timeline.Config ℚ) (blocks : List (Timeline.Block ℚ)),
      Timeline.Config.withWidth width = config.map finite ∧
      Timeline.blocks phases (.withWidth width) = blocks.map (Timeline.Block.map finite) ∧
      Timeline.IsTiling config phases blocks) := by
  constructor
  · have hwidth : (100 : ℚ) ≤ extent 100 520 width := le_extent (by norm_num) width
    have htrack := Bar.track_pos hwidth
    have hlabel : 0 ≤ (Bar.Config.ofWidth (extent 100 520 width)).labelWidth :=
      le_min (by linarith) (by norm_num)
    have hvalue : 6 ≤ (Bar.Config.ofWidth (extent 100 520 width)).valueWidth := by
      show (6 : ℚ) ≤ 44
      norm_num
    rw [Bar.withWidth_eq]
    generalize Bar.Config.ofWidth (extent 100 520 width) = config at *
    have hgeometry := Bar.geometry_eq htrack data
    refine ⟨config, _, data.mapIdx (Bar.rect config), rfl, hgeometry, Bar.chartWidth_eq htrack,
      htrack, ?_, Bar.isColumn_mapIdx_rect hlabel htrack hvalue data⟩
    rw [hgeometry, List.length_map, List.length_mapIdx]
    rfl
  · intro hne
    have hwidth : (200 : ℚ) ≤ extent 200 720 width := le_extent (by norm_num) width
    have hbetween := Timeline.between_pos hwidth
    rw [Timeline.withWidth_eq]
    exact ⟨_, _, rfl, Timeline.blocks_eq hbetween hne,
      Timeline.isTiling_mapIdx_piece hbetween hne⟩

/-- On canvases of no finite width the default ones are drawn. -/
theorem layouts_exact_of_infinite_width :
    let data : List (Datum (Extended ℚ)) := [⟨"A", .finite 40⟩, ⟨"B", .nan⟩, ⟨"C", .finite 140⟩]
    let phases : List Timeline.Phase := [{ label := "One" }, { label := "Two" }]
    (∃ bars : List (Bar.Rect ℚ),
      Bar.geometry data (.withWidth (.infinite false)) = bars.map (Bar.Rect.map finite) ∧
      bars.map (fun bar => (bar.label, bar.value)) = [("A", 40), ("B", 0), ("C", 100)] ∧
      bars.IsChain fun bar next => next.y - (bar.y + bar.height) = 10) ∧
    phases ≠ [] ∧ ∃ blocks : List (Timeline.Block ℚ),
      Timeline.blocks phases (.withWidth (.infinite false)) =
        blocks.map (Timeline.Block.map finite) ∧
      (blocks.getLast?.map fun block => block.x + block.width) = some 692 := by
  intro data phases
  have hne : phases ≠ [] := List.cons_ne_nil _ _
  obtain ⟨⟨config, height, bars, hconfig, hbars, -, -, -, hcolumn⟩, htiling⟩ :=
    layouts_exact (.infinite false) data phases
  obtain ⟨canvas, blocks, hcanvas, hblocks, htiled⟩ := htiling hne
  refine ⟨⟨bars, hbars, ?_, ?_⟩, hne, blocks, hblocks, ?_⟩
  · rw [hcolumn.map_value]
    norm_num [data, onScale]
  · have hgap : finite 10 = finite config.gap := by
      rw [Bar.withWidth_eq] at hconfig
      exact congrArg Bar.Config.gap hconfig
    have hgap : 10 = config.gap := by
      injection hgap
    rw [hgap]
    exact hcolumn.separated
  · have hplaces : finite 720 = finite canvas.width ∧ finite 28 = finite canvas.padding := by
      rw [Timeline.withWidth_eq] at hcanvas
      exact ⟨congrArg Timeline.Config.width hcanvas, congrArg Timeline.Config.padding hcanvas⟩
    have hwidth : 720 = canvas.width := by
      injection hplaces.1
    have hpadding : 28 = canvas.padding := by
      injection hplaces.2
    rw [htiled.last, ← hwidth, ← hpadding]
    norm_num

end DiagnosticReport
