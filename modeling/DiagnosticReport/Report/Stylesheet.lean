import DiagnosticReport.Report.Style

/-!
# The stylesheet of reports

The properties of a brand, followed by the chapters that every report carries. Only the four values
of the brand vary.
-/

namespace DiagnosticReport.Stylesheet

open Style

/-- Resets and the fonts of headings. -/
def resets : Chapter where
  title := "Reset & Base"
  groups := [
    [block "*" [("box-sizing", "border-box"), ("margin", "0"), ("padding", "0")]],
    [block "body"
       [("font-family", "var(--font-body)"), ("line-height", "1.6"), ("color", "#111827"),
        ("background", "#ffffff")]],
    [block "h1, h2, h3"
       [("font-family", "var(--font-heading)"), ("color", "var(--brand-primary)")]]]

/-- The page as a column. -/
def container : Chapter where
  title := "Container"
  groups := [
    [block ".container" [("max-width", "1100px"), ("margin", "0 auto"), ("padding", "2rem")]]]

/-- The header with name and logo. -/
def header : Chapter where
  title := "Header"
  groups := [
    [block "header"
       [("margin-bottom", "2rem"), ("padding-bottom", "1rem"),
        ("border-bottom", "3px solid var(--brand-accent)")]],
    [block "header h1"
       [("font-size", "2rem"), ("font-weight", "700"), ("margin-bottom", "0.5rem")]],
    [block "header .logo"
       [("font-family", "var(--font-heading)"), ("font-weight", "700"),
        ("letter-spacing", "0.05em"), ("text-transform", "uppercase"),
        ("color", "var(--brand-accent)")]],
    [block "header .meta" [("color", "#6b7280"), ("font-size", "0.875rem")]]]

/-- The grid of sections, their layout classes and their placeholders. -/
def sections : Chapter where
  title := "Sections"
  groups := [
    [block "main"
       [("display", "grid"), ("grid-template-columns", "repeat(4, 1fr)"), ("gap", "1.5rem")]],
    [block ".report-section" [("grid-column", "span 4"), ("margin-bottom", "1rem")]],
    [block ".report-section h2"
       [("font-size", "1.5rem"), ("font-weight", "700"), ("margin-bottom", "0.5rem")]],
    [block ".section-description" [("color", "#4b5563"), ("margin-bottom", "1rem")]],
    [line ".cols-2 .section-body" [("column-count", "2"), ("column-gap", "2rem")],
     line ".cols-3 .section-body" [("column-count", "3"), ("column-gap", "2rem")],
     line ".cols-4 .section-body" [("column-count", "4"), ("column-gap", "2rem")],
     line ".full-width" [("grid-column", "1 / -1")],
     block ".emphasis-high, .emphasis-strong"
       [("border-left", "4px solid var(--brand-accent)"), ("padding-left", "1rem")]],
    [block ".placeholder"
       [("padding", "1rem"), ("border", "1px dashed #d1d5db"), ("border-radius", "0.5rem"),
        ("color", "#6b7280"), ("font-style", "italic")]],
    [block ".empty-state" [("color", "#6b7280"), ("font-style", "italic")]]]

/-- Drawn charts. -/
def charts : Chapter where
  title := "Charts"
  groups := [
    [block "svg.chart" [("max-width", "100%"), ("height", "auto")]]]

/-- Tiles and cards, and the colours of bands. -/
def scoreTiles : Chapter where
  title := "Score tiles"
  groups := [
    [block ".score-tiles"
       [("display", "grid"), ("grid-template-columns", "repeat(auto-fit, minmax(160px, 1fr))"),
        ("gap", "1rem")]],
    [block ".score-tile, .metric-card"
       [("background", "#f9fafb"), ("padding", "1rem"), ("border-radius", "0.5rem"),
        ("border-left", "4px solid var(--brand-primary)"), ("break-inside", "avoid")]],
    [block ".score-value, .metric-value" [("font-size", "2rem"), ("font-weight", "700")]],
    [block ".score-label, .metric-label" [("font-weight", "600"), ("color", "#374151")]],
    [block ".score-band, .score-trajectory, .metric-context"
       [("font-size", "0.8rem"), ("color", "#6b7280")]],
    [block ".metric-unit" [("font-size", "1rem"), ("margin-left", "0.25rem")]],
    [line ".band-excellence" [("border-left-color", "#28a745")],
     line ".band-proficiency" [("border-left-color", "#0d6efd")],
     line ".band-attention" [("border-left-color", "#ffc107")],
     line ".band-critical" [("border-left-color", "#dc3545")]]]

/-- Rows with a bar. -/
def progressBars : Chapter where
  title := "Progress bars"
  groups := [
    [block ".progress-row"
       [("display", "grid"), ("grid-template-columns", "180px 1fr 3rem"), ("gap", "0.75rem"),
        ("align-items", "center"), ("margin-bottom", "0.5rem")]],
    [block ".progress-track"
       [("background", "#f3f4f6"), ("border-radius", "999px"), ("height", "0.75rem"),
        ("overflow", "hidden")]],
    [block ".progress-fill" [("height", "100%")]],
    [block ".progress-value" [("font-weight", "600"), ("text-align", "right")]]]

/-- The dashboard beside its donut. -/
def kpiDashboard : Chapter where
  title := "KPI dashboard"
  groups := [
    [block ".kpi-dashboard"
       [("display", "grid"), ("grid-template-columns", "auto 1fr"), ("gap", "1.5rem"),
        ("align-items", "start")]],
    [block ".kpi-caption"
       [("font-size", "0.8rem"), ("color", "#6b7280"), ("text-align", "center")]]]

/-- Tables. -/
def table : Chapter where
  title := "Table"
  groups := [
    [block "table"
       [("width", "100%"), ("border-collapse", "collapse"), ("background", "#ffffff")]],
    [block "thead" [("background", "#f9fafb")]],
    [block "th"
       [("padding", "0.75rem"), ("text-align", "left"), ("font-weight", "600"),
        ("font-size", "0.875rem"), ("color", "#374151"), ("border-bottom", "2px solid #e5e7eb")]],
    [block "td"
       [("padding", "0.75rem"), ("border-bottom", "1px solid #e5e7eb"),
        ("font-size", "0.875rem"), ("vertical-align", "top")]],
    [block "tr:last-child td" [("border-bottom", "none")]],
    [block ".rank" [("width", "3rem"), ("color", "#6b7280")]],
    [block ".rank-score" [("float", "right"), ("font-weight", "600")]]]

/-- The grid of risks. -/
def riskMatrix : Chapter where
  title := "Risk matrix"
  groups := [
    [block ".risk-matrix td" [("height", "4rem")]],
    [line ".risk-low" [("background", "#f0fdf4")],
     line ".risk-medium" [("background", "#fffbeb")],
     line ".risk-high" [("background", "#fef2f2")]],
    [block ".risk-item"
       [("display", "inline-block"), ("margin", "0.125rem"), ("padding", "0.125rem 0.5rem"),
        ("border-radius", "999px"), ("background", "#ffffff"), ("border", "1px solid #e5e7eb"),
        ("font-size", "0.75rem")]],
    [block ".risk-unplaced"
       [("font-size", "0.8rem"), ("color", "#6b7280"), ("margin-top", "0.5rem")]]]

/-- Lists and checklists. -/
def lists : Chapter where
  title := "Lists"
  groups := [
    [block ".bullet-list, .numbered-list, .checklist, .narrative-block ul"
       [("padding-left", "1.5rem")]],
    [block ".checklist" [("list-style", "none"), ("padding-left", "0")]],
    [block ".checklist-steps" [("list-style", "none"), ("padding-left", "1.5rem")]],
    [block ".checklist-item.checked" [("color", "#6b7280")]]]

/-- Prose and trajectories. -/
def narrative : Chapter where
  title := "Narrative"
  groups := [
    [block ".text-block p, .narrative-block p, .callout p" [("margin-bottom", "0.75rem")]],
    [block ".narrative-headline"
       [("display", "flex"), ("gap", "1rem"), ("align-items", "baseline"),
        ("margin-bottom", "1rem")]],
    [block ".narrative-headline .descriptor"
       [("font-weight", "600"), ("color", "var(--brand-primary)")]],
    [block ".narrative-block h3" [("font-size", "1.1rem"), ("margin", "1rem 0 0.5rem")]],
    [line ".trajectory-improving" [("color", "#28a745")],
     line ".trajectory-flat" [("color", "#6b7280")],
     line ".trajectory-declining" [("color", "#dc3545")]]]

/-- Callouts by variant. -/
def callouts : Chapter where
  title := "Callouts"
  groups := [
    [block ".callout"
       [("padding", "1rem 1.25rem"), ("border-radius", "0.5rem"),
        ("border-left", "4px solid var(--brand-primary)"), ("background", "#f9fafb")]],
    [block ".callout-heading" [("font-weight", "700"), ("margin-bottom", "0.5rem")]],
    [line ".callout-warning" [("border-left-color", "#ffc107"), ("background", "#fffbeb")],
     line ".callout-danger, .callout-critical"
       [("border-left-color", "#dc3545"), ("background", "#fef2f2")],
     line ".callout-success, .callout-positive"
       [("border-left-color", "#28a745"), ("background", "#f0fdf4")]]]

/-- The cards of phases. -/
def roadmap : Chapter where
  title := "Roadmap"
  groups := [
    [block ".roadmap-phases"
       [("display", "grid"), ("grid-template-columns", "repeat(auto-fit, minmax(220px, 1fr))"),
        ("gap", "1rem"), ("margin-top", "1rem")]],
    [block ".roadmap-step"
       [("display", "inline-block"), ("width", "1.75rem"), ("height", "1.75rem"),
        ("border-radius", "50%"), ("background", "var(--brand-primary)"), ("color", "#ffffff"),
        ("text-align", "center"), ("font-size", "0.9rem"), ("line-height", "1.75rem")]],
    [block ".roadmap-horizon, .roadmap-linked"
       [("font-size", "0.8rem"), ("color", "#6b7280"), ("font-weight", "400")]]]

/-- Identifiers. -/
def monospace : Chapter where
  title := "Code/Monospace"
  groups := [
    [block ".monospace"
       [("font-family", "'Monaco', 'Courier New', monospace"), ("font-size", "0.875rem")]]]

/-- The footer. -/
def footer : Chapter where
  title := "Footer"
  groups := [
    [block "footer"
       [("margin-top", "3rem"), ("padding-top", "1rem"), ("border-top", "1px solid #e5e7eb"),
        ("text-align", "center"), ("color", "#6b7280"), ("font-size", "0.875rem")]]]

/-- Narrow screens. -/
def mobile : Chapter where
  title := "Mobile"
  media := some "(max-width: 768px)"
  groups := [
    [block ".container" [("padding", "1rem")]],
    [block "header h1" [("font-size", "1.5rem")]],
    [block ".cols-2 .section-body, .cols-3 .section-body, .cols-4 .section-body"
       [("column-count", "1")]],
    [block ".kpi-dashboard" [("grid-template-columns", "1fr")]]]

/-- Paper. -/
def print : Chapter where
  title := "Print"
  media := some "print"
  groups := [
    [block ".container" [("max-width", "none"), ("padding", "0")]],
    [line ".page-break-before" [("break-before", "page")],
     line ".page-break-after" [("break-after", "page")]],
    [block ".report-section" [("break-inside", "avoid")]]]

/-- The chapters of every report. -/
def chapters : List Chapter :=
  [resets, container, header, sections, charts, scoreTiles, progressBars, kpiDashboard, table,
   riskMatrix, lists, narrative, callouts, roadmap, monospace, footer, mobile, print]

/-- The rule that holds the properties of a brand. -/
def brandRule (brand : Brand) : Rule :=
  block ":root" [("--brand-primary", value brand.primaryColor),
    ("--brand-accent", value brand.accentColor), ("--font-heading", value brand.headingFont),
    ("--font-body", value brand.bodyFont)]

/-- The stylesheet of a report under a brand. -/
def text (brand : Brand) : String :=
  "\n" ++ (brandRule brand).render "" ++ renderChapters chapters

end DiagnosticReport.Stylesheet
