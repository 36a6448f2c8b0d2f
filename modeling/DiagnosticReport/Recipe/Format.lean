import DiagnosticReport.Failure
import DiagnosticReport.Query.Format
import DiagnosticReport.Recipe.Basic

/-!
# The JSON form of recipes

A recipe needs an id, a name and a list of sections; these are checked first. Sections are then
read one by one and leniently: an entry that does not fit becomes a section that keeps its id,
title, description and visual and carries the fault, so one bad entry never rejects the recipe.
-/

namespace DiagnosticReport

/-! ## Layout and brand -/

namespace LayoutHints

/-- The fields of layout hints. -/
def record : Record LayoutHints where
  name := "LayoutHints"
  isOpen := true
  blank := {}
  fields := [
    .of "page_break_before" .optional .bool (fun v h => { h with breakBefore := v }),
    .of "page_break_after" .optional .bool (fun v h => { h with breakAfter := v }),
    .of "columns" .optional (.nullable .byte) (fun v h => { h with columns := v }),
    .of "full_width" .optional .bool (fun v h => { h with fullWidth := v }),
    .of "emphasis" .optional (.nullable .string) (fun v h => { h with emphasis := v })]

/-- Layout hints as JSON. -/
def toJson (hints : LayoutHints) : Json :=
  .ofFields [
    ("page_break_before", some (.bool hints.breakBefore)),
    ("page_break_after", some (.bool hints.breakAfter)),
    ("columns", hints.columns.map .ofNat),
    ("full_width", some (.bool hints.fullWidth)),
    ("emphasis", hints.emphasis.map .string)]

end LayoutHints

namespace BrandOverrides

/-- The fields of a brand. -/
def record : Record BrandOverrides where
  name := "BrandOverrides"
  isOpen := true
  blank := {}
  fields := [
    .of "primary_color" .optional (.nullable .string) (fun v b => { b with primaryColor := v }),
    .of "accent_color" .optional (.nullable .string) (fun v b => { b with accentColor := v }),
    .of "font_heading" .optional (.nullable .string) (fun v b => { b with headingFont := v }),
    .of "font_body" .optional (.nullable .string) (fun v b => { b with bodyFont := v }),
    .of "logo_text" .optional (.nullable .string) (fun v b => { b with logoText := v })]

/-- A brand as JSON; open parts are left out. -/
def toJson (brand : BrandOverrides) : Json :=
  .ofFields [
    ("primary_color", brand.primaryColor.map .string),
    ("accent_color", brand.accentColor.map .string),
    ("font_heading", brand.headingFont.map .string),
    ("font_body", brand.bodyFont.map .string),
    ("logo_text", brand.logoText.map .string)]

end BrandOverrides

/-! ## Sections -/

namespace Section

/-- The fields of a section. -/
def record : Record Section where
  name := "Section"
  isOpen := true
  blank := { id := "" }
  fields := [
    .of "id" .required .string (fun v s => { s with id := v }),
    .of "title" .required .string (fun v s => { s with title := v }),
    .of "description" .optional (.nullable .string) (fun v s => { s with description := v }),
    .of "visual_type" .required .string (fun v s => { s with visual := v }),
    .of "data_sources" .optional (fun raw => .ok (DataSource.listOfJson raw))
      (fun v s => { s with sources := v }),
    .of "layout_hints" .optional (.nullable LayoutHints.record.read)
      (fun v s => { s with layout := v }),
    .of "tone_tags" .optional (.list .string) (fun v s => { s with toneTags := v }),
    .of "options" .optional .any (fun v s => { s with options := v })]

/-- The section of the entry at a position; one that does not fit keeps the texts it has. -/
def ofJson (index : Nat) (raw : Json) : Section :=
  match record.read raw with
  | .ok s => s
  | .error fault =>
    { id := (raw.stringAt? "id").getD ("section-" ++ Decimal.natText (index + 1)),
      title := (raw.stringAt? "title").getD "",
      description := raw.stringAt? "description",
      visual := (raw.stringAt? "visual_type").getD "",
      fault := some fault }

/-- A section as JSON; the fault is not written. -/
def toJson (s : Section) : Json :=
  .ofFields [
    ("id", some (.string s.id)),
    ("title", some (.string s.title)),
    ("description", s.description.map .string),
    ("visual_type", some (.string s.visual)),
    ("data_sources", some (.array (s.sources.map DataSource.toJson))),
    ("layout_hints", s.layout.map LayoutHints.toJson),
    ("tone_tags", if s.toneTags.isEmpty then none else some (.ofStrings s.toneTags)),
    ("options", if s.options.isNull then none else some s.options)]

end Section

/-! ## Recipes -/

/-- Why a recipe is rejected. -/
inductive RecipeError where
  | malformedText
  | notAnObject
  | missing (field : String)
  | blank (field : String)
  | sectionsNotAnArray
  | brand (fault : DecodeError)

namespace RecipeError

/-- The failure with its wording. -/
def toFailure : RecipeError → Failure
  | malformedText => ⟨"recipe is not valid JSON", [.unreadable]⟩
  | notAnObject => ⟨"recipe must be a JSON object", []⟩
  | missing field => ⟨"recipe is missing required field '" ++ field ++ "'", []⟩
  | blank field => ⟨"recipe field '" ++ field ++ "' must be a non-empty string", []⟩
  | sectionsNotAnArray => ⟨"recipe field 'sections' must be an array", []⟩
  | brand fault => .ofMessages "recipe has an invalid shape" [fault.message]

end RecipeError

namespace Recipe

/-- A required field that is a text with more than blanks. -/
def requiredText (fields : List (String × Json)) (name : String) : Except RecipeError String :=
  match Json.lookup name fields with
  | some (.string s) => if Text.isAllBlank s then .error (.blank name) else .ok s
  | some _ => .error (.blank name)
  | none => .error (.missing name)

/-- The required list of section entries. -/
def requiredSections (fields : List (String × Json)) : Except RecipeError (List Json) :=
  match Json.lookup "sections" fields with
  | some (.array entries) => .ok entries
  | some _ => .error .sectionsNotAnArray
  | none => .error (.missing "sections")

/-- Id, name and section entries of a recipe. -/
def outline : Json → Except RecipeError (String × String × List Json)
  | .object fields => do
    let reportId ← requiredText fields "report_id"
    let name ← requiredText fields "name"
    let entries ← requiredSections fields
    return (reportId, name, entries)
  | _ => .error .notAnObject

/-- The brand of a recipe; all parts are open if it has none. -/
def readBrand (raw : Json) : Except RecipeError BrandOverrides :=
  match raw.get? "brand_config" with
  | none => .ok {}
  | some value => (BrandOverrides.record.read value).mapError .brand

/-- Read a recipe from a value. -/
def ofJson (raw : Json) : Except RecipeError Recipe := do
  let (reportId, name, entries) ← outline raw
  let brand ← readBrand raw
  return ⟨reportId, name, brand, entries.mapIdx Section.ofJson⟩

/-- Read a recipe from text. -/
def parse (text : String) : Except RecipeError Recipe :=
  match Json.parse? text with
  | some raw => ofJson raw
  | none => .error .malformedText

end Recipe

end DiagnosticReport
