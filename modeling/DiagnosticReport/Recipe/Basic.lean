import DiagnosticReport.Query.Source

/-!
# Recipes

A recipe declares a report: its name, its brand and its sections. A section names a visual, the
data sources that feed it and options for the visual; layout hints turn into style classes of its
container.
-/

namespace DiagnosticReport

/-- Hints on the layout of a section. -/
structure LayoutHints where
  breakBefore : Bool := false
  breakAfter : Bool := false
  columns : Option Nat := none
  fullWidth : Bool := false
  emphasis : Option String := none

/-- A section of a report. -/
structure Section where
  id : String
  title : String := ""
  description : Option String := none
  /-- The tag of the visual. -/
  visual : String := ""
  sources : List DataSource := []
  layout : Option LayoutHints := none
  toneTags : List String := []
  /-- Options for the visual, by name. -/
  options : Json := .null
  /-- Why the section could not be read; such a section shows the fault. -/
  fault : Option DecodeError := none

/-- Colours, fonts and logo of a report. -/
structure Brand where
  primaryColor : String := "#212653"
  accentColor : String := "#969423"
  headingFont : String := "'Montserrat', sans-serif"
  bodyFont : String := "'Open Sans', sans-serif"
  logoText : Option String := none

/-- A brand of which any part may be left open. -/
structure BrandOverrides where
  primaryColor : Option String := none
  accentColor : Option String := none
  headingFont : Option String := none
  bodyFont : Option String := none
  logoText : Option String := none

/-- A declared report. -/
structure Recipe where
  reportId : String
  name : String
  brand : BrandOverrides := {}
  sections : List Section := []

/-- An ASCII letter or digit. -/
def isAsciiAlphanumeric (c : Char) : Bool :=
  c.isAlphanum

/-- The ASCII letters, digits and hyphens of a text, in lower case. -/
def styleSlug (s : String) : String :=
  String.ofList ((s.toList.filter fun c => isAsciiAlphanumeric c || c == '-').map Char.toLower)

namespace LayoutHints

/-- The style class of a number of columns, for 2 to 4 columns. -/
def columnsClass? (hints : LayoutHints) : Option String :=
  (hints.columns.filter fun n => 2 ≤ n && n ≤ 4).map fun n => "cols-" ++ Decimal.natText n

/-- The style class of the emphasis, unless its slug is empty. -/
def emphasisClass? (hints : LayoutHints) : Option String :=
  ((hints.emphasis.map styleSlug).filter fun slug => !slug.isEmpty).map ("emphasis-" ++ ·)

/-- The style classes of the hints, in a fixed order. -/
def classes (hints : LayoutHints) : List String :=
  (if hints.breakBefore then ["page-break-before"] else []) ++
  (if hints.breakAfter then ["page-break-after"] else []) ++
  hints.columnsClass?.toList ++
  (if hints.fullWidth then ["full-width"] else []) ++
  hints.emphasisClass?.toList

end LayoutHints

namespace Section

/-- An option that is a string. -/
def textOption? (s : Section) (name : String) : Option String :=
  s.options.stringAt? name

/-- An option that is a finite number. -/
def numberOption? (s : Section) (name : String) : Option Float :=
  ((s.options.get? name).bind Json.asFloat?).filter Binary64.isFinite

/-- An option that is a non-negative integer. -/
def countOption? (s : Section) (name : String) : Option Nat :=
  (s.options.get? name).bind Json.asNat?

/-- An option that is a boolean. -/
def flagOption? (s : Section) (name : String) : Option Bool :=
  (s.options.get? name).bind Json.asBool?

/-- An option that is an array. -/
def listOption? (s : Section) (name : String) : Option (List Json) :=
  s.options.arrayAt? name

end Section

/-- A brand with overrides on top of it. -/
def Brand.merge (brand : Brand) (overrides : BrandOverrides) : Brand where
  primaryColor := overrides.primaryColor.getD brand.primaryColor
  accentColor := overrides.accentColor.getD brand.accentColor
  headingFont := overrides.headingFont.getD brand.headingFont
  bodyFont := overrides.bodyFont.getD brand.bodyFont
  logoText := overrides.logoText <|> brand.logoText

end DiagnosticReport
