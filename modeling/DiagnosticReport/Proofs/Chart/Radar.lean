import DiagnosticReport.Chart.Radar
import DiagnosticReport.Proofs.Chart.Exact
import DiagnosticReport.Proofs.Config.Settings
import Mathlib.Analysis.SpecialFunctions.Trigonometric.Basic
import Mathlib.Tactic.LinearCombination

/-!
# The corners of a radar chart

Without rounding, a corner of the score polygon divides its axis as its score divides the scale, so
its distance from the centre is in proportion to the score. This takes no more of the functions of
the circle than that their squares add up to one (`Rotation`). The rings grow evenly up to the
largest radius, and the reference circles of an accepted configuration lie one inside the other.
-/

namespace DiagnosticReport

open Extended

/-- Functions in place of those of the circle: any two whose squares add up to one. -/
class Rotation (K : Type) [CommRing K] where
  cos : K → K
  sin : K → K
  pi : K
  cos_sq_add_sin_sq (x : K) : cos x ^ 2 + sin x ^ 2 = 1

noncomputable instance [Rotation ℝ] : Circular (Extended ℝ) where
  cos
    | finite x => finite (Rotation.cos x)
    | infinite _ | nan => nan
  sin
    | finite x => finite (Rotation.sin x)
    | infinite _ | nan => nan
  pi := finite Rotation.pi

/-! ## Points -/

namespace Point

def map {α β : Type} (f : α → β) (p : Point α) : Point β :=
  ⟨f p.x, f p.y⟩

section

variable {K : Type} [CommRing K]

/-- The square of the distance of two points. -/
def distSq (p q : Point K) : K :=
  (p.x - q.x) ^ 2 + (p.y - q.y) ^ 2

variable [Rotation K]

/-- The point at a distance from a centre, in the direction of an angle. -/
def along (center : Point K) (radius angle : K) : Point K :=
  ⟨center.x + radius * Rotation.cos angle, center.y + radius * Rotation.sin angle⟩

/-- Along any direction, a point is as far from the center as it was moved. -/
theorem distSq_along (center : Point K) (radius angle : K) :
    (center.along radius angle).distSq center = radius ^ 2 := by
  unfold distSq along
  linear_combination radius ^ 2 * Rotation.cos_sq_add_sin_sq angle

/-- A share of the radius is that share of the way. -/
theorem along_share (center : Point K) (share radius angle : K) :
    (center.along (share * radius) angle).x =
        center.x + share * ((center.along radius angle).x - center.x) ∧
      (center.along (share * radius) angle).y =
        center.y + share * ((center.along radius angle).y - center.y) := by
  simp only [along]
  constructor
  · ring
  · ring

end

/-- In exact numbers, the code moves a point along its direction. -/
theorem polar_finite [Rotation ℝ] (center : Point ℝ) (radius angle : ℝ) :
    polar (center.map finite) (finite radius) (finite angle) =
      (center.along radius angle).map finite :=
  rfl

end Point

namespace Radar

def Vertex.map {α β : Type} (f : α → β) (v : Vertex α) : Vertex β :=
  ⟨v.point.map f, f v.angle, f v.score⟩

theorem literals : (2.0 : Extended ℝ) = finite 2 ∧ (100.0 : Extended ℝ) = finite 100 := by
  simp only [ofScientific_eq]
  norm_num

/-! ## Axes and corners -/

section

variable [Rotation ℝ]

/-- The angle of axis `i` of `n`. -/
noncomputable def angleOf (n i : Nat) : ℝ :=
  i * (2 * Rotation.pi / n) - Rotation.pi / 2

/-- The corner of a score on axis `i` of `n`. -/
noncomputable def corner (center : Point ℝ) (radius : ℝ) (n i : Nat) (score : ℝ) : Vertex ℝ :=
  ⟨center.along (score / 100 * radius) (angleOf n i), angleOf n i, score⟩

/-- The angles of the axes share the circle. -/
theorem axisAngle_eq {n : Nat} (hn : n ≠ 0) (i : Nat) :
    axisAngle i n = finite (angleOf n i) := by
  have hpi : (Circular.pi : Extended ℝ) = finite Rotation.pi := rfl
  have hquarter : finite (Rotation.pi : ℝ) / finite 2 = finite (Rotation.pi / 2) :=
    finite_div_finite two_ne_zero
  have hstep : finite (2 * Rotation.pi : ℝ) / Scalar.ofNat n = finite (2 * Rotation.pi / n : ℝ) :=
    finite_div_finite (Nat.cast_ne_zero.2 hn)
  have hindex : (Scalar.ofNat i : Extended ℝ) = finite (i : ℝ) := rfl
  simp only [axisAngle, if_neg hn, literals.1, hpi, hquarter, finite_mul_finite, hstep, hindex,
    finite_sub_finite]
  rfl

section

variable {config : Config (Extended ℝ)} {size radius : ℝ}

theorem center_eq (hsize : config.size = finite size) :
    config.center = (Point.mk (size / 2) (size / 2)).map finite := by
  rw [Config.center, hsize, literals.1, finite_div_finite two_ne_zero]
  rfl

variable (hradius : config.maxRadius = finite radius) (hpos : 0 < radius)

include hradius hpos

theorem outerRadius_eq : config.outerRadius = finite radius := by
  rw [Config.outerRadius, hradius, isFinite_finite, zero_eq, less_finite, decide_eq_true hpos]
  rfl

/-- The radius of a score is its share of the scale. -/
theorem radiusOf_eq (score : Extended ℝ) :
    config.radiusOf score = finite (onScale 100 score / 100 * radius) := by
  rw [Config.radiusOf, Extended.clampScore_eq, outerRadius_eq hradius hpos, literals.2,
    finite_div_finite (by norm_num), finite_mul_finite]

theorem radiusOf_of_mem {score : ℝ} (hlow : 0 ≤ score) (hhigh : score ≤ 100) :
    config.radiusOf (finite score) = finite (score / 100 * radius) := by
  rw [radiusOf_eq hradius hpos, onScale_of_mem hlow hhigh]

/-- The code places a corner where its axis and score say. -/
theorem vertex_eq (hsize : config.size = finite size) {n : Nat} (hn : n ≠ 0) (i : Nat)
    (score : Extended ℝ) :
    vertex config n i score =
      (corner ⟨size / 2, size / 2⟩ radius n i (onScale 100 score)).map finite := by
  -- the score is brought onto the scale once more on the way to its radius
  obtain ⟨hlow, hhigh⟩ := onScale_mem (show (0 : ℝ) ≤ 100 by norm_num) score
  rw [vertex, Extended.clampScore_eq, radiusOf_of_mem hradius hpos hlow hhigh, axisAngle_eq hn,
    center_eq hsize, Point.polar_finite]
  rfl

variable (hsize : config.size = finite size) (axes : List (Datum (Extended ℝ)))

include hsize

/-- The spokes lead to the rim, one for each axis. -/
theorem spokes_eq :
    (geometry axes config).spokes =
      (axes.mapIdx fun i _ => Point.along ⟨size / 2, size / 2⟩ radius
        (angleOf axes.length i)).map (Point.map finite) := by
  refine List.ext_getElem (by simp [geometry]) fun i h _ => ?_
  have hn : axes.length ≠ 0 := by
    rw [geometry, List.length_mapIdx] at h
    omega
  simp only [geometry, List.getElem_map, List.getElem_mapIdx, outerRadius_eq hradius hpos,
    center_eq hsize, axisAngle_eq hn, Point.polar_finite]

/-- There is a corner for each axis. -/
theorem vertices_eq :
    (geometry axes config).vertices =
      (axes.mapIdx fun i axis => corner ⟨size / 2, size / 2⟩ radius axes.length i
        (onScale 100 axis.value)).map (Vertex.map finite) := by
  refine List.ext_getElem (by simp [geometry]) fun i h _ => ?_
  have hn : axes.length ≠ 0 := by
    rw [geometry, List.length_mapIdx] at h
    omega
  simp only [geometry, List.getElem_map, List.getElem_mapIdx, vertex_eq hradius hpos hsize hn]

end

/-- A corner is as far from the center as its score says. -/
theorem distSq_corner (center : Point ℝ) (radius : ℝ) (n i : Nat) (score : ℝ) :
    (corner center radius n i score).point.distSq center = (score / 100 * radius) ^ 2 :=
  Point.distSq_along ..

end

/-! ## Rings -/

/-- The radius of a ring, the first of which has number 0. -/
noncomputable def ring (radius : ℝ) (levels l : Nat) : ℝ :=
  radius * (l + 1 : ℕ) / levels

/-- Rings grow. -/
theorem ring_lt_ring {radius : ℝ} (hpos : 0 < radius) {levels : Nat} (hlevels : levels ≠ 0)
    {l m : Nat} (h : l < m) : ring radius levels l < ring radius levels m := by
  have hcount : (0 : ℝ) < levels := by
    exact_mod_cast Nat.pos_of_ne_zero hlevels
  unfold ring
  gcongr

/-- The last ring is the rim. -/
theorem ring_last {radius : ℝ} {levels : Nat} (hlevels : levels ≠ 0) :
    ring radius levels (levels - 1) = radius := by
  rw [ring, Nat.sub_add_cancel (Nat.pos_of_ne_zero hlevels),
    mul_div_cancel_right₀ _ (Nat.cast_ne_zero.2 hlevels)]

/-- The code draws the rings at equal distances. -/
theorem rings_eq {config : Config (Extended ℝ)} {radius : ℝ}
    (hradius : config.maxRadius = finite radius) (hpos : 0 < radius) [Rotation ℝ]
    (axes : List (Datum (Extended ℝ))) :
    (geometry axes config).rings =
      ((List.range (max config.levels 1)).map (ring radius (max config.levels 1))).map finite := by
  have hlevels : ((max config.levels 1 : ℕ) : ℝ) ≠ 0 := by
    exact_mod_cast Nat.ne_of_gt (le_max_right config.levels 1)
  rw [geometry, List.map_map]
  refine List.map_congr_left fun l _ => ?_
  rw [outerRadius_eq hradius hpos]
  exact finite_div_finite hlevels

/-! ## Reference circles -/

/-- The reference scores of an accepted configuration lie on the scale, one below the other. -/
theorem benchmarks_of_resolve {given : DiagnosticReport.Config} {settings : Settings}
    (h : given.resolve = .ok settings) :
    0 ≤ Binary64.value settings.options.industryAverage ∧
      Binary64.value settings.options.industryAverage <
        Binary64.value settings.options.topQuartile ∧
      Binary64.value settings.options.topQuartile ≤ 100 := by
  obtain ⟨hsound, -, -, hoptions, -⟩ := Config.resolve_eq_ok.1 h
  rw [hoptions]
  have haverage := isFinite_of_score hsound.average
    (Binary64.lessEq_of_less_of_lessEq hsound.quartile hsound.top)
  have htop := isFinite_of_score
    (Binary64.lessEq_of_lessEq_of_less hsound.average hsound.quartile) hsound.top
  have hhundred := Binary64.value_eq_div (x := 100.0) (n := 100) (d := 1) (by decide) (by decide)
    (by decide)
  have hlow := (Binary64.lessEq_iff_value (by decide) haverage).1 hsound.average
  have hhigh := (Binary64.lessEq_iff_value htop (by decide)).1 hsound.top
  rw [Binary64.value_zero] at hlow
  rw [hhundred] at hhigh
  refine ⟨hlow, (Binary64.less_iff_value haverage htop).1 hsound.quartile, ?_⟩
  simpa using hhigh

/-- The circles of the reference scores are nested as the scores are ordered. -/
theorem circles_nested {config : Config (Extended ℝ)} {radius average quartile : ℝ}
    (hradius : config.maxRadius = finite radius) (hpos : 0 < radius)
    (haverage : config.industryAverage = finite average)
    (hquartile : config.topQuartile = finite quartile) (hlow : 0 ≤ average)
    (hlt : average < quartile) (hhigh : quartile ≤ 100) [Rotation ℝ]
    (axes : List (Datum (Extended ℝ))) :
    ∃ industry top : ℝ, (geometry axes config).industryRadius = finite industry ∧
      (geometry axes config).topQuartileRadius = finite top ∧
      0 ≤ industry ∧ industry < top ∧ top ≤ radius := by
  have hshare : quartile / 100 ≤ 1 := (div_le_one (by norm_num)).2 hhigh
  refine ⟨average / 100 * radius, quartile / 100 * radius, ?_, ?_, by positivity, by gcongr,
    mul_le_of_le_one_left hpos.le hshare⟩
  · rw [geometry, haverage]
    exact radiusOf_of_mem hradius hpos hlow (hlt.le.trans hhigh)
  · rw [geometry, hquartile]
    exact radiusOf_of_mem hradius hpos (hlow.trans hlt.le) hhigh

/-! ## The geometry -/

/-- **The corners.** Let the largest radius be positive. Without rounding a chart has a spoke, a
corner and a label for each axis, in their order. A corner divides its spoke as its score divides
the scale, so its distance from the centre grows with the score and never exceeds the largest
radius. The rings grow strictly up to the largest radius. The reference circles of an accepted
configuration lie one inside the other. -/
theorem corners_exact [Rotation ℝ] (axes : List (Datum (Extended ℝ)))
    (config : Config (Extended ℝ)) {size radius : ℝ} (hsize : config.size = finite size)
    (hradius : config.maxRadius = finite radius) (hpos : 0 < radius) :
    ∃ (center : Point ℝ) (spokes : List (Point ℝ)) (vertices : List (Vertex ℝ)) (rings : List ℝ),
      ((geometry axes config).center = center.map finite ∧
        (geometry axes config).maxRadius = finite radius ∧
        (geometry axes config).spokes = spokes.map (Point.map finite) ∧
        (geometry axes config).vertices = vertices.map (Vertex.map finite) ∧
        (geometry axes config).rings = rings.map finite) ∧
      (spokes.length = axes.length ∧
        vertices.map Vertex.score = axes.map (fun axis => onScale 100 axis.value) ∧
        (geometry axes config).labels.map Label.text = axes.map Datum.label) ∧
      (∀ p ∈ spokes.zip vertices,
        p.2.point.x = center.x + p.2.score / 100 * (p.1.x - center.x) ∧
        p.2.point.y = center.y + p.2.score / 100 * (p.1.y - center.y)) ∧
      (∀ v ∈ vertices, v.point.distSq center = (v.score / 100 * radius) ^ 2 ∧
        v.point.distSq center ≤ radius ^ 2) ∧
      (∀ v ∈ vertices, ∀ w ∈ vertices, v.score < w.score →
        v.point.distSq center < w.point.distSq center) ∧
      (rings.length = max config.levels 1 ∧ rings.Pairwise (· < ·) ∧
        rings.getLast? = some radius) ∧
      ∀ (given : DiagnosticReport.Config) (settings : Settings), given.resolve = .ok settings →
        config.industryAverage = finite (Binary64.value settings.options.industryAverage : ℝ) →
        config.topQuartile = finite (Binary64.value settings.options.topQuartile : ℝ) →
        ∃ industry top : ℝ, (geometry axes config).industryRadius = finite industry ∧
          (geometry axes config).topQuartileRadius = finite top ∧
          0 ≤ industry ∧ industry < top ∧ top ≤ radius := by
  let center : Point ℝ := ⟨size / 2, size / 2⟩
  let n := axes.length
  let vertices := axes.mapIdx fun i axis => corner center radius n i (onScale 100 axis.value)
  have hlevels : max config.levels 1 ≠ 0 := Nat.ne_of_gt (le_max_right config.levels 1)
  have hvertex : ∀ v ∈ vertices, (0 ≤ v.score ∧ v.score ≤ 100) ∧
      v.point.distSq center = (v.score / 100 * radius) ^ 2 := by
    intro v hv
    obtain ⟨i, hi, rfl⟩ := List.mem_mapIdx.1 hv
    exact ⟨onScale_mem (by norm_num) axes[i].value, distSq_corner ..⟩
  refine ⟨center, axes.mapIdx fun i _ => center.along radius (angleOf n i), vertices,
    (List.range (max config.levels 1)).map (ring radius (max config.levels 1)),
    ⟨center_eq hsize, outerRadius_eq hradius hpos, spokes_eq hradius hpos hsize axes,
      vertices_eq hradius hpos hsize axes, rings_eq hradius hpos axes⟩,
    ⟨List.length_mapIdx, ?scores, ?labels⟩, ?corners, ?distances, ?grows, ⟨?_, ?_, ?_⟩, ?circles⟩
  case scores =>
    exact List.ext_getElem (by simp [vertices]) fun i _ _ => by simp [vertices, corner]
  case labels =>
    exact List.ext_getElem (by simp [geometry]) fun i _ _ => by simp [geometry, axisLabel]
  case corners =>
    intro p hp
    obtain ⟨i, hi, rfl⟩ := List.mem_iff_getElem.1 hp
    simp only [vertices, List.getElem_zip, List.getElem_mapIdx]
    exact Point.along_share ..
  case distances =>
    intro v hv
    obtain ⟨⟨hlow, hhigh⟩, hdist⟩ := hvertex v hv
    refine ⟨hdist, hdist.trans_le ?_⟩
    have hshare : v.score / 100 ≤ 1 := (div_le_one (by norm_num)).2 hhigh
    exact pow_le_pow_left₀ (by positivity) (mul_le_of_le_one_left hpos.le hshare) 2
  case grows =>
    intro v hv w hw hlt
    obtain ⟨⟨hlow, -⟩, hdist⟩ := hvertex v hv
    obtain ⟨-, hfarther⟩ := hvertex w hw
    rw [hdist, hfarther]
    gcongr
  · rw [List.length_map, List.length_range]
  · rw [List.pairwise_map]
    exact List.pairwise_lt_range.imp fun h => ring_lt_ring hpos hlevels h
  · rw [List.getLast?_map, List.getLast?_range, if_neg hlevels, Option.map_some, ring_last hlevels]
  case circles =>
    intro given settings hresolve hindustry htop
    obtain ⟨hlow, hlt, hhigh⟩ := benchmarks_of_resolve hresolve
    exact circles_nested hradius hpos hindustry htop (by exact_mod_cast hlow)
      (by exact_mod_cast hlt) (by exact_mod_cast hhigh) axes

/-- The functions of the circle themselves. -/
noncomputable instance : Rotation ℝ where
  cos := Real.cos
  sin := Real.sin
  pi := Real.pi
  cos_sq_add_sin_sq := Real.cos_sq_add_sin_sq

/-- Of three axes one has no number for a score, and one is off the scale. -/
theorem corners_exact_of_odd_scores :
    let axes : List (Datum (Extended ℝ)) := [⟨"A", .finite 50⟩, ⟨"B", .nan⟩, ⟨"C", .finite 250⟩]
    let config : Config (Extended ℝ) := .withSize (.finite 400)
    config.size = .finite 400 ∧ config.maxRadius = .finite 136 ∧
      (∃ (center : Point ℝ) (vertices : List (Vertex ℝ)),
        (geometry axes config).vertices = vertices.map (Vertex.map finite) ∧
        vertices.map (fun v => v.point.distSq center) = [68 ^ 2, 0, 136 ^ 2]) ∧
      ∃ settings : Settings, ({} : DiagnosticReport.Config).resolve = .ok settings ∧
        config.industryAverage = finite (Binary64.value settings.options.industryAverage : ℝ) ∧
        config.topQuartile = finite (Binary64.value settings.options.topQuartile : ℝ) ∧
        ∃ industry top : ℝ, (geometry axes config).industryRadius = finite industry ∧
          (geometry axes config).topQuartileRadius = finite top ∧ industry < top := by
  intro axes config
  have hsize : config.size = .finite 400 := by
    have hbound : (100.0 : Extended ℝ) = finite 100 ∧ (400.0 : Extended ℝ) = finite 400 := by
      simp only [ofScientific_eq]
      norm_num
    simp only [config, Config.withSize, hbound, extent_eq]
    norm_num [extent]
  have hradius : config.maxRadius = .finite 136 := by
    show config.size * (0.34 : Extended ℝ) = _
    rw [hsize, ofScientific_eq, finite_mul_finite]
    norm_num
  have hbenchmarks : config.industryAverage = finite (Binary64.value 60.0 : ℝ) ∧
      config.topQuartile = finite (Binary64.value 75.0 : ℝ) := by
    have hsixty := Binary64.value_eq_div (x := 60.0) (n := 60) (d := 1) (by decide) (by decide)
      (by decide)
    have hquartile := Binary64.value_eq_div (x := 75.0) (n := 75) (d := 1) (by decide) (by decide)
      (by decide)
    show (60.0 : Extended ℝ) = _ ∧ (75.0 : Extended ℝ) = _
    rw [hsixty, hquartile]
    simp only [ofScientific_eq]
    norm_num
  obtain ⟨center, spokes, vertices, rings, ⟨-, -, -, hvertices, -⟩, ⟨-, hscores, -⟩, -, hdist, -,
    -, hcircles⟩ := corners_exact axes config hsize hradius (by norm_num)
  have hresolve : ∃ settings : Settings, ({} : DiagnosticReport.Config).resolve = .ok settings ∧
      settings.options = {} := ⟨_, rfl, rfl⟩
  obtain ⟨settings, hsettings, hoptions⟩ := hresolve
  have haverage : config.industryAverage =
      finite (Binary64.value settings.options.industryAverage : ℝ) := by
    rw [hoptions]
    exact hbenchmarks.1
  have htop : config.topQuartile =
      finite (Binary64.value settings.options.topQuartile : ℝ) := by
    rw [hoptions]
    exact hbenchmarks.2
  obtain ⟨industry, top, hindustry, hquartile, -, hlt, -⟩ :=
    hcircles {} settings hsettings haverage htop
  refine ⟨hsize, hradius, ⟨center, vertices, hvertices, ?_⟩, settings, hsettings, haverage, htop,
    industry, top, hindustry, hquartile, hlt⟩
  have hmap : vertices.map (fun v => v.point.distSq center) =
      (vertices.map Vertex.score).map fun score => (score / 100 * 136) ^ 2 := by
    rw [List.map_map]
    exact List.map_congr_left fun v hv => (hdist v hv).1
  rw [hmap, hscores]
  norm_num [axes, onScale]

end Radar

end DiagnosticReport
