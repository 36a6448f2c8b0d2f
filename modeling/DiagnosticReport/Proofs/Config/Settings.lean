import DiagnosticReport.Config.Basic
import DiagnosticReport.Proofs.Binary64.Order
import DiagnosticReport.Proofs.Except
import Mathlib.Data.List.ReduceOption

/-!
# Settings that are accepted

A configuration is checked group by group, as far as it gives a group, and its defaults are filled
in elsewhere. The two agree: a configuration is accepted just if its settings with the defaults
filled in are in range and in order, and the renderers are told just these settings
(`Config.resolve_iff_isSound`).
-/

namespace DiagnosticReport

open Binary64

/-! ## Specification -/

/-- The bounds of the bands lie above 0 and at most at 100, and in order. -/
structure Thresholds.IsOrdered (t : Thresholds) : Prop where
  positive : less 0.0 t.attention
  attention : less t.attention t.proficiency
  proficiency : less t.proficiency t.excellence
  ceiling : lessEq t.excellence 100.0

/-- The default thresholds are in order. -/
theorem Thresholds.isOrdered_default : ({} : Thresholds).IsOrdered :=
  ⟨by decide, by decide, by decide, by decide⟩

/-! ## Finite numbers -/

/-- A score is finite. -/
theorem isFinite_of_score {x : Float} (hlow : lessEq 0.0 x) (hhigh : lessEq x 100.0) :
    isFinite x :=
  isFinite_of_between (by decide) (by decide) hlow hhigh

/-- A chart size within its range is finite. -/
theorem isFinite_of_size {x : Float} (h : lessEq 100.0 x ∧ lessEq x 2000.0) : isFinite x :=
  isFinite_of_between (by decide) (by decide) h.1 h.2

/-- Thresholds in order are finite. -/
theorem Thresholds.IsOrdered.isFinite {t : Thresholds} (h : t.IsOrdered) :
    Binary64.isFinite t.attention ∧ Binary64.isFinite t.proficiency ∧
      Binary64.isFinite t.excellence := by
  have hproficiency := less_trans h.positive h.attention
  have hexcellence := less_trans hproficiency h.proficiency
  have hceiling := lessEq_of_less_of_lessEq h.proficiency h.ceiling
  exact ⟨isFinite_of_score (lessEq_of_less h.positive)
      (lessEq_of_less_of_lessEq h.attention hceiling),
    isFinite_of_score (lessEq_of_less hproficiency) hceiling,
    isFinite_of_score (lessEq_of_less hexcellence) h.ceiling⟩

/-! ## Sound configurations -/

namespace Config

/-- The settings of a configuration with each missing value replaced by its default. -/
def effective (config : Config) : RenderOptions where
  brand := {
    primaryColor := (config.brand.bind BrandOverrides.primaryColor).getD "#212653"
    accentColor := (config.brand.bind BrandOverrides.accentColor).getD "#969423"
    headingFont :=
      (config.brand.bind BrandOverrides.headingFont).getD "'Montserrat', sans-serif"
    bodyFont := (config.brand.bind BrandOverrides.bodyFont).getD "'Open Sans', sans-serif"
    logoText := config.brand.bind BrandOverrides.logoText }
  thresholds := {
    excellence := (config.bands.bind BandSettings.excellence).getD 80.0
    proficiency := (config.bands.bind BandSettings.proficiency).getD 60.0
    attention := (config.bands.bind BandSettings.attention).getD 40.0 }
  radarSize := (config.charts.bind ChartSettings.radarSize).getD 400.0
  barWidth := (config.charts.bind ChartSettings.barWidth).getD 520.0
  industryAverage := (config.benchmarks.bind BenchmarkSettings.industryAverage).getD 60.0
  topQuartile := (config.benchmarks.bind BenchmarkSettings.topQuartile).getD 75.0
  maxColumns := (config.table.bind TableSettings.maxColumns).getD 6
  footerText := config.footerText.getD "Generated by IDM Report"

/-- The colours and fonts that a configuration gives. -/
def brandTexts (config : Config) : List String :=
  let given := config.brand.getD {}
  [given.primaryColor, given.accentColor, given.headingFont, given.bodyFont].reduceOption

/-- What is asked of a configuration with its defaults filled in. -/
structure IsSound (config : Config) : Prop where
  thresholds : config.effective.thresholds.IsOrdered
  average : lessEq 0.0 config.effective.industryAverage
  quartile : less config.effective.industryAverage config.effective.topQuartile
  top : lessEq config.effective.topQuartile 100.0
  radar : lessEq 100.0 config.effective.radarSize ∧ lessEq config.effective.radarSize 2000.0
  bar : lessEq 100.0 config.effective.barWidth ∧ lessEq config.effective.barWidth 2000.0
  columns : 1 ≤ config.effective.maxColumns ∧ config.effective.maxColumns ≤ 20
  brand : ∀ text ∈ config.brandTexts, ¬ Text.isAllBlank text
  included : ∀ text ∈ config.includePatterns, ∃ glob, Glob.parse text = .ok glob
  excluded : ∀ text ∈ config.excludePatterns, ∃ glob, Glob.parse text = .ok glob

/-! ## Single checks -/

section

variable {name upperName : String} {value min max upper : Float}

/-- A range between finite bounds is checked for what it says. -/
theorem checkRange_eq_ok (hmin : isFinite min) (hmax : isFinite max) :
    checkRange name value min max = .ok () ↔ lessEq min value ∧ lessEq value max := by
  have houtside : (!isFinite value || less value min || less max value) ↔
      ¬ (lessEq min value ∧ lessEq value max) := by
    rw [isFinite_iff] at hmin hmax
    rw [Bool.or_eq_true, Bool.or_eq_true, Bool.not_eq_true', ← Bool.not_eq_true, isFinite_iff,
      less_iff, less_iff, lessEq_iff, lessEq_iff]
    omega
  unfold checkRange
  split
  · next h => exact iff_of_false nofun (houtside.1 h)
  · next h => exact iff_of_true rfl (not_not.1 (mt houtside.2 h))

/-- A threshold is accepted if it is above 0 and at most 100. -/
theorem checkBound_eq_ok :
    checkBound name value = .ok () ↔ less 0.0 value ∧ lessEq value 100.0 := by
  have hlow : lessEq value 0.0 → ¬ less 0.0 value := by
    rw [less_iff, lessEq_iff]
    omega
  have hhigh : ¬ lessEq value 0.0 → lessEq 0.0 value → less 0.0 value := by
    rw [less_iff, lessEq_iff, lessEq_iff]
    omega
  unfold checkBound
  split
  · next hle => exact iff_of_false nofun fun h => hlow hle h.1
  · next hnot =>
    rw [checkRange_eq_ok isFinite_zero (by decide)]
    exact and_congr_left fun _ => ⟨hhigh hnot, lessEq_of_less⟩

/-- Two numbers are accepted if the first is below the second. -/
theorem checkBelow_eq_ok (hvalue : ¬ isNaN value) (hupper : ¬ isNaN upper) :
    checkBelow name value upperName upper = .ok () ↔ less value upper := by
  rw [← not_lessEq_iff hvalue hupper, checkBelow]
  cases lessEq upper value <;> simp

end

/-- From 1 to 20 columns are accepted. -/
theorem checkColumns_eq_ok {count : Nat} :
    checkColumns count = .ok () ↔ 1 ≤ count ∧ count ≤ 20 := by
  unfold checkColumns
  split <;> simp_all

/-- A part of a brand is accepted unless it is given and blank. -/
theorem checkBrandPart_eq_ok {name : String} {value : Option String} :
    checkBrandPart name value = .ok () ↔ ∀ text, value = some text → ¬ Text.isAllBlank text := by
  cases value with
  | none => exact iff_of_true rfl nofun
  | some text => cases h : Text.isAllBlank text <;> simp [checkBrandPart, h]

/-- A pattern is accepted if it can be parsed. -/
theorem checkPattern_eq_ok {list text : String} :
    checkPattern list text = .ok () ↔ ∃ glob, Glob.parse text = .ok glob := by
  unfold checkPattern
  split <;> simp_all

/-! ## Groups -/

/-- Bands are accepted if they are in order together with the defaults for those not given. -/
theorem checkBands_eq_ok {given : BandSettings} :
    checkBands given = .ok () ↔
      (Thresholds.mk (given.excellence.getD 80.0) (given.proficiency.getD 60.0)
        (given.attention.getD 40.0)).IsOrdered := by
  unfold checkBands
  generalize given.excellence.getD 80.0 = excellence
  generalize given.proficiency.getD 60.0 = proficiency
  generalize given.attention.getD 40.0 = attention
  simp only [except_check_eq_ok, checkBound_eq_ok]
  constructor
  · rintro ⟨⟨he, hceiling⟩, ⟨hp, -⟩, ⟨ha, -⟩, hap, hpe⟩
    have hnumber {x : Float} (h : less 0.0 x) : ¬ isNaN x := not_isNaN_of_less h
    exact ⟨ha, (checkBelow_eq_ok (hnumber ha) (hnumber hp)).1 hap,
      (checkBelow_eq_ok (hnumber hp) (hnumber he)).1 hpe, hceiling⟩
  · rintro ⟨ha, hap, hpe, hceiling⟩
    have hp := less_trans ha hap
    have he := less_trans hp hpe
    have hproficiency := lessEq_of_less_of_lessEq hpe hceiling
    exact ⟨⟨he, hceiling⟩, ⟨hp, hproficiency⟩, ⟨ha, lessEq_of_less_of_lessEq hap hproficiency⟩,
      (checkBelow_eq_ok (not_isNaN_of_less ha) (not_isNaN_of_less hp)).2 hap,
      (checkBelow_eq_ok (not_isNaN_of_less hp) (not_isNaN_of_less he)).2 hpe⟩

/-- Reference scores are accepted if they are in order together with the defaults. -/
theorem checkBenchmarks_eq_ok {given : BenchmarkSettings} :
    checkBenchmarks given = .ok () ↔
      lessEq 0.0 (given.industryAverage.getD 60.0) ∧
      less (given.industryAverage.getD 60.0) (given.topQuartile.getD 75.0) ∧
      lessEq (given.topQuartile.getD 75.0) 100.0 := by
  unfold checkBenchmarks
  generalize given.industryAverage.getD 60.0 = average
  generalize given.topQuartile.getD 75.0 = top
  have hhundred : isFinite 100.0 := by decide
  simp only [except_check_eq_ok, checkRange_eq_ok isFinite_zero hhundred]
  constructor
  · rintro ⟨⟨haverage, -⟩, ⟨hlow, htop⟩, hbelow⟩
    have hless := (checkBelow_eq_ok (not_isNaN_of_lessEq haverage) (not_isNaN_of_lessEq hlow)).1
      hbelow
    exact ⟨haverage, hless, htop⟩
  · rintro ⟨haverage, hless, htop⟩
    exact ⟨⟨haverage, lessEq_of_less_of_lessEq hless htop⟩,
      ⟨lessEq_of_lessEq_of_less haverage hless, htop⟩,
      (checkBelow_eq_ok (not_isNaN_of_lessEq haverage) (not_isNaN_of_less hless)).2 hless⟩

/-- A chart size is accepted if the size in effect is within its range. -/
theorem checkSize_eq_ok {name : String} {given : Option Float} {default : Float}
    (hdefault : lessEq 100.0 default ∧ lessEq default 2000.0) :
    given.forM (checkRange name · 100.0 2000.0) = .ok () ↔
      lessEq 100.0 (given.getD default) ∧ lessEq (given.getD default) 2000.0 := by
  cases given with
  | none => exact iff_of_true rfl hdefault
  | some value => exact checkRange_eq_ok (by decide) (by decide)

/-- A brand is accepted if no part of it is blank. -/
theorem checkBrand_eq_ok {given : BrandOverrides} :
    checkBrand given = .ok () ↔
      ∀ text ∈ [given.primaryColor, given.accentColor, given.headingFont,
        given.bodyFont].reduceOption, ¬ Text.isAllBlank text := by
  simp only [checkBrand, except_check_eq_ok, checkBrandPart_eq_ok, List.reduceOption_mem_iff,
    List.mem_cons, List.not_mem_nil, or_false]
  constructor
  · rintro ⟨hprimary, haccent, hheading, hbody⟩ text (h | h | h | h)
    · exact hprimary text h.symm
    · exact haccent text h.symm
    · exact hheading text h.symm
    · exact hbody text h.symm
  · intro h
    exact ⟨fun text ht => h text (.inl ht.symm), fun text ht => h text (.inr (.inl ht.symm)),
      fun text ht => h text (.inr (.inr (.inl ht.symm))),
      fun text ht => h text (.inr (.inr (.inr ht.symm)))⟩

/-- Discovery is accepted if all its patterns can be parsed. -/
theorem checkPatterns_eq_ok {given : DiscoverySettings} :
    checkPatterns given = .ok () ↔
      (∀ text ∈ given.included, ∃ glob, Glob.parse text = .ok glob) ∧
      ∀ text ∈ given.excluded, ∃ glob, Glob.parse text = .ok glob := by
  simp only [checkPatterns, except_check_eq_ok, except_forM_list_eq_ok, checkPattern_eq_ok]

/-! ## Validation -/

section

variable {config : Config}

/-- The check of bands is about the thresholds in effect. -/
theorem bands_eq_ok :
    config.bands.forM checkBands = .ok () ↔ config.effective.thresholds.IsOrdered := by
  unfold effective
  cases config.bands with
  | none => exact iff_of_true rfl Thresholds.isOrdered_default
  | some given => exact checkBands_eq_ok

/-- The check of reference scores is about those in effect. -/
theorem benchmarks_eq_ok :
    config.benchmarks.forM checkBenchmarks = .ok () ↔
      lessEq 0.0 config.effective.industryAverage ∧
      less config.effective.industryAverage config.effective.topQuartile ∧
      lessEq config.effective.topQuartile 100.0 := by
  have hdefault : lessEq 0.0 60.0 ∧ less 60.0 75.0 ∧ lessEq 75.0 100.0 := by decide
  unfold effective
  cases config.benchmarks with
  | none => exact iff_of_true rfl hdefault
  | some given => exact checkBenchmarks_eq_ok

/-- The check of chart sizes is about those in effect. -/
theorem charts_eq_ok :
    config.charts.forM checkCharts = .ok () ↔
      (lessEq 100.0 config.effective.radarSize ∧ lessEq config.effective.radarSize 2000.0) ∧
      lessEq 100.0 config.effective.barWidth ∧ lessEq config.effective.barWidth 2000.0 := by
  have hradar : lessEq 100.0 400.0 ∧ lessEq 400.0 2000.0 := by decide
  have hbar : lessEq 100.0 520.0 ∧ lessEq 520.0 2000.0 := by decide
  unfold effective
  cases config.charts with
  | none => exact iff_of_true rfl ⟨hradar, hbar⟩
  | some given =>
    show checkCharts given = .ok () ↔ _
    rw [checkCharts, except_check_eq_ok, checkSize_eq_ok hradar, checkSize_eq_ok hbar]
    rfl

/-- The check of columns is about the number in effect. -/
theorem columns_eq_ok :
    (config.table.bind TableSettings.maxColumns).forM checkColumns = .ok () ↔
      1 ≤ config.effective.maxColumns ∧ config.effective.maxColumns ≤ 20 := by
  unfold effective
  cases config.table.bind TableSettings.maxColumns with
  | none => exact iff_of_true rfl (show 1 ≤ 6 ∧ 6 ≤ 20 by decide)
  | some count => exact checkColumns_eq_ok

theorem brand_eq_ok :
    config.brand.forM checkBrand = .ok () ↔
      ∀ text ∈ config.brandTexts, ¬ Text.isAllBlank text := by
  unfold brandTexts
  cases config.brand with
  | none => exact iff_of_true rfl nofun
  | some given => exact checkBrand_eq_ok

/-- The default pattern can be read. -/
theorem exists_parse_defaultPattern : ∃ glob, Glob.parse defaultPattern = .ok glob :=
  ⟨_, rfl⟩

/-- The check of patterns is about those in effect; the default ones pass it. -/
theorem discovery_eq_ok :
    config.discovery.forM checkPatterns = .ok () ↔
      (∀ text ∈ config.includePatterns, ∃ glob, Glob.parse text = .ok glob) ∧
      ∀ text ∈ config.excludePatterns, ∃ glob, Glob.parse text = .ok glob := by
  have hdefault : ∀ text ∈ [defaultPattern], ∃ glob, Glob.parse text = .ok glob :=
    List.forall_mem_singleton.2 exists_parse_defaultPattern
  unfold includePatterns excludePatterns
  cases config.discovery with
  | none => exact iff_of_true rfl ⟨hdefault, List.forall_mem_nil _⟩
  | some given =>
    show checkPatterns given = .ok () ↔ _
    rw [checkPatterns_eq_ok]
    cases h : given.included with
    | nil => simp [h, exists_parse_defaultPattern]
    | cons text texts => simp [h]

/-- Validation accepts the sound configurations and no others. -/
theorem validate_eq_ok : config.validate = .ok () ↔ config.IsSound := by
  simp only [validate, except_check_eq_ok, bands_eq_ok, benchmarks_eq_ok, charts_eq_ok,
    columns_eq_ok, brand_eq_ok, discovery_eq_ok]
  constructor
  · rintro ⟨hbands, ⟨haverage, hquartile, htop⟩, ⟨hradar, hbar⟩, hcolumns, hbrand, hincluded,
      hexcluded⟩
    exact ⟨hbands, haverage, hquartile, htop, hradar, hbar, hcolumns, hbrand, hincluded,
      hexcluded⟩
  · rintro ⟨hbands, haverage, hquartile, htop, hradar, hbar, hcolumns, hbrand, hincluded,
      hexcluded⟩
    exact ⟨hbands, ⟨haverage, hquartile, htop⟩, ⟨hradar, hbar⟩, hcolumns, hbrand, hincluded,
      hexcluded⟩

/-! ## Resolution -/

theorem thresholds_eq : config.thresholds = config.effective.thresholds := by
  unfold thresholds effective
  cases config.bands <;> rfl

theorem referenceScores_eq :
    config.referenceScores = (config.effective.industryAverage, config.effective.topQuartile) := by
  unfold referenceScores effective
  cases config.benchmarks <;> rfl

theorem chartSizes_eq :
    config.chartSizes = (config.effective.radarSize, config.effective.barWidth) := by
  unfold chartSizes effective
  cases config.charts <;> rfl

theorem effectiveBrand_eq : config.effectiveBrand = config.effective.brand := by
  unfold effectiveBrand effective
  cases config.brand with
  | none => rfl
  | some given =>
    cases h : given.logoText <;> simp [Brand.merge, h]

/-- The options that a configuration resolves to are those in effect. -/
theorem options_eq_effective : config.options = config.effective := by
  unfold options
  rw [thresholds_eq, referenceScores_eq, chartSizes_eq, effectiveBrand_eq]
  rfl

/-- Patterns are compiled if each can be parsed and all together are small enough. -/
theorem compile_eq_ok {patterns : List String} {globs : List Glob} :
    compile patterns = .ok globs ↔
      patterns.mapM Glob.parse = .ok globs ∧ Glob.checkSet globs = .ok () := by
  simp only [compile, except_bind_eq_ok, mapM_mapError_eq_ok, except_mapError_eq_ok]
  constructor
  · rintro ⟨found, hfound, ⟨⟩, hcheck, hglobs⟩
    cases hglobs
    exact ⟨hfound, hcheck⟩
  · rintro ⟨hglobs, hcheck⟩
    exact ⟨globs, hglobs, (), hcheck, rfl⟩

/-- Resolving asks that the configuration is sound and that its patterns make up sets. -/
theorem resolve_eq_ok {settings : Settings} :
    config.resolve = .ok settings ↔
      config.IsSound ∧
      (config.includePatterns.mapM Glob.parse = .ok settings.included ∧
        Glob.checkSet settings.included = .ok ()) ∧
      (config.excludePatterns.mapM Glob.parse = .ok settings.excluded ∧
        Glob.checkSet settings.excluded = .ok ()) ∧
      settings.options = config.effective ∧ settings.origin = none := by
  rw [resolve, except_check_eq_ok, validate_eq_ok]
  simp only [except_bind_eq_ok, compile_eq_ok, options_eq_effective]
  constructor
  · rintro ⟨hsound, included, hincluded, excluded, hexcluded, hsettings⟩
    cases hsettings
    exact ⟨hsound, hincluded, hexcluded, rfl, rfl⟩
  · rintro ⟨hsound, hincluded, hexcluded, hoptions, horigin⟩
    exact ⟨hsound, _, hincluded, _, hexcluded, by rw [← hoptions, ← horigin]; rfl⟩

end

/-- **Accepted settings.** If the patterns of a configuration make up sets wherever they can be
read, the configuration is accepted just if it is sound. Then the renderers are told its settings
with the defaults filled in, whose bounds are in order and whose numbers are finite. -/
theorem resolve_iff_isSound (config : Config)
    (hinclude : ∀ globs, config.includePatterns.mapM Glob.parse = .ok globs →
      Glob.checkSet globs = .ok ())
    (hexclude : ∀ globs, config.excludePatterns.mapM Glob.parse = .ok globs →
      Glob.checkSet globs = .ok ()) :
    ((∃ settings, config.resolve = .ok settings) ↔ config.IsSound) ∧
    ∀ settings, config.resolve = .ok settings →
      settings.options = config.effective ∧ settings.options.thresholds.IsOrdered ∧
      ∀ x ∈ [settings.options.thresholds.attention, settings.options.thresholds.proficiency,
        settings.options.thresholds.excellence, settings.options.industryAverage,
        settings.options.topQuartile, settings.options.radarSize, settings.options.barWidth],
        isFinite x := by
  refine ⟨⟨?sound, ?accepted⟩, ?options⟩
  case sound =>
    rintro ⟨settings, h⟩
    exact (resolve_eq_ok.1 h).1
  case accepted =>
    intro h
    obtain ⟨included, hincluded⟩ := exists_mapM_eq_ok.2 h.included
    obtain ⟨excluded, hexcluded⟩ := exists_mapM_eq_ok.2 h.excluded
    exact ⟨⟨config.effective, included, excluded, none⟩, resolve_eq_ok.2
      ⟨h, ⟨hincluded, hinclude _ hincluded⟩, ⟨hexcluded, hexclude _ hexcluded⟩, rfl, rfl⟩⟩
  case options =>
    intro settings h
    obtain ⟨hsound, -, -, hoptions, -⟩ := resolve_eq_ok.1 h
    obtain ⟨hattention, hproficiency, hexcellence⟩ := hsound.thresholds.isFinite
    have haverage := isFinite_of_score hsound.average
      (lessEq_of_less_of_lessEq hsound.quartile hsound.top)
    have htop := isFinite_of_score (lessEq_of_lessEq_of_less hsound.average hsound.quartile)
      hsound.top
    rw [hoptions]
    refine ⟨rfl, hsound.thresholds, ?_⟩
    simp only [List.forall_mem_cons]
    exact ⟨hattention, hproficiency, hexcellence, haverage, htop, isFinite_of_size hsound.radar,
      isFinite_of_size hsound.bar, List.forall_mem_nil _⟩

/-- Two groups are given in part and keep the defaults for the rest of them. -/
theorem resolve_iff_isSound_of_partial_groups :
    let config : Config := {
      bands := some { proficiency := some 70.0 }
      benchmarks := some { topQuartile := some 65.5 }
      discovery := some { included := ["r/*"], excluded := ["?"] } }
    ∃ settings, config.resolve = .ok settings ∧
      settings.options.thresholds = ⟨80.0, 70.0, 40.0⟩ ∧
      settings.options.industryAverage = 60.0 ∧ settings.options.topQuartile = 65.5 := by
  intro config
  have hincluded : config.includePatterns.mapM Glob.parse =
      .ok [⟨"r/*", [.char 'r', .char '/', .anyRun]⟩] := by cbv
  have hexcluded : config.excludePatterns.mapM Glob.parse = .ok [⟨"?", [.anyByte]⟩] := by cbv
  obtain ⟨hiff, hoptions⟩ := config.resolve_iff_isSound
    (fun globs h => Except.ok.inj (hincluded.symm.trans h) ▸ rfl)
    (fun globs h => Except.ok.inj (hexcluded.symm.trans h) ▸ rfl)
  obtain ⟨settings, h⟩ := hiff.2 {
    thresholds := {
      positive := (by decide : less 0.0 40.0)
      attention := (by decide : less 40.0 70.0)
      proficiency := (by decide : less 70.0 80.0)
      ceiling := (by decide : lessEq 80.0 100.0) }
    average := (by decide : lessEq 0.0 60.0)
    quartile := (by decide : less 60.0 65.5)
    top := (by decide : lessEq 65.5 100.0)
    radar := (by decide : lessEq 100.0 400.0 ∧ lessEq 400.0 2000.0)
    bar := (by decide : lessEq 100.0 520.0 ∧ lessEq 520.0 2000.0)
    columns := (by decide : 1 ≤ 6 ∧ 6 ≤ 20)
    brand := List.forall_mem_nil _
    included := exists_mapM_eq_ok.1 ⟨_, hincluded⟩
    excluded := exists_mapM_eq_ok.1 ⟨_, hexcluded⟩ }
  refine ⟨settings, h, ?_⟩
  rw [(hoptions settings h).1]
  exact ⟨rfl, rfl, rfl⟩

end Config

end DiagnosticReport
