import DiagnosticReport.Proofs.Visual.Elements
import DiagnosticReport.Proofs.Visual.Registration

/-!
# The built-in renderers

The registry of the built-in visuals holds, under each tag, the renderer of the visual with that
tag. All of them draw whatever they are given, but for the comparison table, which refuses fewer
than two bindings.
-/

namespace DiagnosticReport

/-! ## Tags of visuals -/

namespace Visual

theorem mem_all (visual : Visual) : visual ∈ all := by
  cases visual <;> decide

theorem tag_injective {v w : Visual} (h : v.tag = w.tag) : v = w := by
  have hall : ∀ v ∈ all, ∀ w ∈ all, v.tag = w.tag → v = w := by decide
  exact hall v v.mem_all w w.mem_all h

/-- A list of all visuals, in any order, holds exactly one with a tag. -/
theorem find?_tag {visuals : List Visual} (hall : ∀ v, v ∈ visuals) {t : String} {v : Visual} :
    visuals.find? (fun visual => visual.tag == t) = some v ↔ v.tag = t := by
  constructor
  · exact fun h => by simpa using List.find?_some h
  · intro h
    have hsome : (visuals.find? fun visual => visual.tag == t).isSome :=
      List.find?_isSome.2 ⟨v, hall v, by simpa using h⟩
    obtain ⟨w, hw⟩ := Option.isSome_iff_exists.1 hsome
    have htag : w.tag = t := by simpa using List.find?_some hw
    rw [hw, tag_injective (htag.trans h.symm)]

theorem lookup_map_renderer (visuals : List Visual) (t : String) :
    (visuals.map fun visual => (visual.tag, visual.renderer)).lookup t =
      (visuals.find? fun visual => visual.tag == t).map renderer := by
  induction visuals with
  | nil => rfl
  | cons visual visuals ih =>
    rw [List.map_cons, List.lookup_cons, ih, List.find?_cons, Bool.beq_comm (a := t)]
    cases visual.tag == t <;> rfl

theorem ofTag?_eq_some {t : String} {v : Visual} : ofTag? t = some v ↔ v.tag = t :=
  find?_tag mem_all

end Visual

/-- **Lookup in the built-in registry**: under a tag stands the renderer of its visual. -/
theorem Registry.get?_builtin (t : String) :
    builtin.get? t = (Visual.ofTag? t).map Visual.renderer := by
  have hcalls : builtin =
      empty.registerAll (Visual.all.map fun visual => (visual.tag, visual.renderer)) := by
    rw [builtin, registerAll, List.foldl_map]
  have hreverse : Visual.all.reverse.find? (fun visual => visual.tag == t) = Visual.ofTag? t := by
    apply Option.ext
    intro v
    rw [Visual.ofTag?_eq_some]
    exact Visual.find?_tag fun v => List.mem_reverse.2 v.mem_all
  rw [hcalls, get?_registerAll, ← List.map_reverse, Visual.lookup_map_renderer, hreverse]
  exact Option.or_none

/-! ## Drawing -/

/-- The section asks for a comparison and has fewer than two bindings for it. -/
def Section.LacksComparison (s : Section) (bindings : Bindings) : Prop :=
  s.visual = Visual.comparisonTable.tag ∧ bindings.size < 2

namespace Visual

theorem exists_drawn {visual : Visual} (h : visual ≠ comparisonTable) (bindings : Bindings)
    (s : Section) (options : RenderOptions) :
    ∃ fragment, visual.renderer bindings s options = .drawn fragment ∧
      fragment.Uses Tag.isDrawn := by
  cases visual with
  | scoreTile => exact ⟨_, rfl, uses_drawScoreTile bindings s options⟩
  | scoreTiles => exact ⟨_, rfl, uses_drawScoreTiles bindings s options⟩
  | radarChart => exact ⟨_, rfl, uses_drawRadarChart bindings s options⟩
  | barChart => exact ⟨_, rfl, uses_drawBarChart bindings s options⟩
  | progressBar => exact ⟨_, rfl, uses_drawProgressBar bindings s options⟩
  | table => exact ⟨_, rfl, uses_drawTable bindings s options⟩
  | checklist => exact ⟨_, rfl, uses_drawChecklist bindings s options⟩
  | timeline => exact ⟨_, rfl, uses_drawTimeline bindings s options⟩
  | riskMatrix => exact ⟨_, rfl, uses_drawRiskMatrix bindings s options⟩
  | roadmapTimeline => exact ⟨_, rfl, uses_drawRoadmapTimeline bindings s options⟩
  | kpiDashboard => exact ⟨_, rfl, uses_drawKpiDashboard bindings s options⟩
  | textBlock => exact ⟨_, rfl, uses_drawTextBlock bindings s options⟩
  | narrativeBlock => exact ⟨_, rfl, uses_drawNarrativeBlock bindings s options⟩
  | bulletList => exact ⟨_, rfl, uses_drawBulletList bindings s options⟩
  | numberedList => exact ⟨_, rfl, uses_drawNumberedList bindings s options⟩
  | calloutBox => exact ⟨_, rfl, uses_drawCalloutBox bindings s options⟩
  | metricCard => exact ⟨_, rfl, uses_drawMetricCard bindings s options⟩
  | comparisonTable => exact absurd rfl h
  | none => exact ⟨_, rfl, Markup.uses_empty⟩
  | donutChart => exact ⟨_, rfl, uses_drawDonutChart bindings s options⟩
  | gapChart => exact ⟨_, rfl, uses_drawGapChart bindings s options⟩

/-- A comparison of two or more bindings is drawn, one of fewer is refused. -/
theorem comparisonRenderer_cases (bindings : Bindings) (s : Section) (options : RenderOptions) :
    (bindings.size < 2 ∧ comparisonRenderer bindings s options =
      .refused (TooFewSources.message ⟨s.id, bindings.size⟩)) ∨
    (2 ≤ bindings.size ∧ ∃ fragment, comparisonRenderer bindings s options = .drawn fragment ∧
      fragment.Uses Tag.isDrawn) := by
  obtain ⟨entries⟩ := bindings
  cases entries with
  | nil => exact .inl ⟨by simp [Bindings.size], rfl⟩
  | cons left rest =>
    cases rest with
    | nil => exact .inl ⟨by simp [Bindings.size], rfl⟩
    | cons right rest =>
      refine .inr ⟨by simp [Bindings.size], _, rfl, ?_⟩
      split
      · simp [Tag.isDrawn]
      · exact uses_comparison _ _ _ _ _

end Visual

theorem Registry.uses_unsupported {p : Tag → Bool} (hp : p .div) (tag : String) :
    (unsupported tag).Uses p := by
  simp [unsupported, hp]

/-- Rendering with the built-in visuals never breaks down, and refuses nothing but a comparison
that lacks bindings. -/
theorem Registry.render_builtin_cases (bindings : Bindings) (s : Section)
    (options : RenderOptions) :
    (s.LacksComparison bindings ∧ builtin.render bindings s options =
      .refused (Visual.TooFewSources.message ⟨s.id, bindings.size⟩)) ∨
    (¬s.LacksComparison bindings ∧ ∃ fragment, builtin.render bindings s options =
      .drawn fragment ∧ fragment.Uses Tag.isDrawn) := by
  unfold render
  rw [get?_builtin]
  cases hvisual : Visual.ofTag? s.visual with
  | none =>
    have hlacks : ¬s.LacksComparison bindings := by
      intro h
      have hfound := Visual.ofTag?_eq_some.2 h.1.symm
      rw [hvisual] at hfound
      cases hfound
    exact .inr ⟨hlacks, _, rfl, uses_unsupported rfl _⟩
  | some visual =>
    have htag := Visual.ofTag?_eq_some.1 hvisual
    by_cases h : visual = .comparisonTable
    · subst h
      rcases Visual.comparisonRenderer_cases bindings s options with ⟨hsize, h⟩ | ⟨hsize, h⟩
      · exact .inl ⟨⟨htag.symm, hsize⟩, h⟩
      · exact .inr ⟨fun hlacks => by have := hlacks.2; omega, h⟩
    · have hlacks : ¬s.LacksComparison bindings :=
        fun hlacks => h (Visual.tag_injective (htag.trans hlacks.1))
      exact .inr ⟨hlacks, Visual.exists_drawn h bindings s options⟩

end DiagnosticReport
