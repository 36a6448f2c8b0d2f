import DiagnosticReport.Visual.List
import DiagnosticReport.Visual.Prose
import DiagnosticReport.Visual.RiskMatrix
import DiagnosticReport.Visual.Score
import DiagnosticReport.Visual.Series
import DiagnosticReport.Visual.Table

/-!
# Renderers

A renderer draws a section, says why it cannot, or breaks down. A registry holds renderers by the
tags under which sections ask for them, in the order of the tags; a tag that it does not hold is
shown as a placeholder and is no failure.
-/

namespace DiagnosticReport

/-- What becomes of the drawing of a section. -/
inductive Outcome where
  | drawn (fragment : Markup)
  | refused (message : String)
  /-- The renderer broke down without an answer. -/
  | broken

/-- A function that draws sections. -/
abbrev Renderer := Bindings → Section → RenderOptions → Outcome

/-- The renderer of a drawing, which never fails. -/
def Drawing.renderer (drawing : Drawing) : Renderer := fun bindings s options =>
  .drawn (drawing bindings s options)

namespace Visual

/-- The renderer of a comparison table, the only built-in one that can fail. -/
def comparisonRenderer : Renderer := fun bindings s _ =>
  match drawComparisonTable bindings s with
  | .ok fragment => .drawn fragment
  | .error e => .refused e.message

/-- The renderer of a built-in visual. -/
def renderer : Visual → Renderer
  | scoreTile => drawScoreTile.renderer
  | scoreTiles => drawScoreTiles.renderer
  | radarChart => drawRadarChart.renderer
  | barChart => drawBarChart.renderer
  | progressBar => drawProgressBar.renderer
  | table => drawTable.renderer
  | checklist => drawChecklist.renderer
  | timeline => drawTimeline.renderer
  | riskMatrix => drawRiskMatrix.renderer
  | roadmapTimeline => drawRoadmapTimeline.renderer
  | kpiDashboard => drawKpiDashboard.renderer
  | textBlock => drawTextBlock.renderer
  | narrativeBlock => drawNarrativeBlock.renderer
  | bulletList => drawBulletList.renderer
  | numberedList => drawNumberedList.renderer
  | calloutBox => drawCalloutBox.renderer
  | metricCard => drawMetricCard.renderer
  | comparisonTable => comparisonRenderer
  | none => fun _ _ _ => .drawn .empty
  | donutChart => drawDonutChart.renderer
  | gapChart => drawGapChart.renderer

end Visual

/-! ## Registries -/

/-- Put a renderer under a tag, at its place in the order of tags. -/
def insertRenderer (tag : String) (renderer : Renderer) :
    List (String × Renderer) → List (String × Renderer)
  | [] => [(tag, renderer)]
  | first :: rest =>
    if tag = first.1 then (tag, renderer) :: rest
    else if tag < first.1 then (tag, renderer) :: first :: rest
    else first :: insertRenderer tag renderer rest

theorem mem_insertRenderer {tag : String} {renderer : Renderer} {entry : String × Renderer}
    {entries : List (String × Renderer)} (h : entry ∈ insertRenderer tag renderer entries) :
    entry = (tag, renderer) ∨ entry ∈ entries := by
  induction entries with
  | nil => simpa [insertRenderer] using h
  | cons first rest ih =>
    rw [insertRenderer] at h
    split at h
    · rcases List.mem_cons.1 h with h | h
      · exact .inl h
      · exact .inr (List.mem_cons_of_mem _ h)
    · split at h
      · exact List.mem_cons.1 h
      · rcases List.mem_cons.1 h with h | h
        · exact .inr (h ▸ List.mem_cons_self)
        · exact (ih h).imp id (List.mem_cons_of_mem _)

/-- Insertion keeps the order of tags. -/
theorem pairwise_insertRenderer (tag : String) (renderer : Renderer)
    {entries : List (String × Renderer)} (h : entries.Pairwise fun a b => a.1 < b.1) :
    (insertRenderer tag renderer entries).Pairwise fun a b => a.1 < b.1 := by
  induction entries with
  | nil => simp [insertRenderer]
  | cons first rest ih =>
    obtain ⟨above, sorted⟩ := List.pairwise_cons.1 h
    rw [insertRenderer]
    split
    · next same => exact List.pairwise_cons.2 ⟨fun b hb => same ▸ above b hb, sorted⟩
    · next differs =>
      split
      · next below =>
        refine List.pairwise_cons.2 ⟨fun b hb => ?_, h⟩
        rcases List.mem_cons.1 hb with hb | hb
        · exact hb ▸ below
        · exact String.lt_trans below (above b hb)
      · next notBelow =>
        refine List.pairwise_cons.2 ⟨fun b hb => ?_, ih sorted⟩
        rcases mem_insertRenderer hb with hb | hb
        · exact hb ▸ Std.lt_of_le_of_ne notBelow fun same => differs same.symm
        · exact above b hb

/-- Renderers by tag, in the order of the tags. -/
structure Registry where
  entries : List (String × Renderer) := []
  sorted : entries.Pairwise fun a b => a.1 < b.1 := by exact .nil

namespace Registry

/-- The registry without renderers. -/
def empty : Registry := {}

/-- Put a renderer under a tag; it replaces one that is there. -/
def register (registry : Registry) (tag : String) (renderer : Renderer) : Registry :=
  ⟨insertRenderer tag renderer registry.entries,
    pairwise_insertRenderer tag renderer registry.sorted⟩

/-- The registry of all built-in visuals under their tags. -/
def builtin : Registry :=
  Visual.all.foldl (fun registry visual => registry.register visual.tag visual.renderer) empty

/-- The renderer under a tag. -/
def get? (registry : Registry) (tag : String) : Option Renderer :=
  (registry.entries.find? fun entry => entry.1 == tag).map Prod.snd

/-- There is a renderer under a tag. -/
def contains (registry : Registry) (tag : String) : Bool :=
  registry.entries.any fun entry => entry.1 == tag

/-- All tags, in their order. -/
def tags (registry : Registry) : List String :=
  registry.entries.map Prod.fst

/-- What is shown for a tag without a renderer. -/
def unsupported (tag : String) : Markup :=
  .styled .div "placeholder unsupported" (.text ("[Unsupported visual type: " ++ tag ++ "]"))

/-- Draw a section with the renderer under its tag. -/
def render (registry : Registry) : Renderer := fun bindings s options =>
  match registry.get? s.visual with
  | some renderer => renderer bindings s options
  | none => .drawn (unsupported s.visual)

end Registry

end DiagnosticReport
