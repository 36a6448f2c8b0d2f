import DiagnosticReport.Report.Block
import DiagnosticReport.Report.Stylesheet

/-!
# Reports

A report is one document without scripts: the stylesheet of its brand, a header, the blocks of its
sections in the order of the recipe, and a footer. There is no report if a section breaks down.
-/

namespace DiagnosticReport

/-! ## Header and footer -/

/-- A labelled text in the header. -/
def headerItem (label : String) (content : Markup) : Markup :=
  .plain .span (.text (label ++ ": ") ++ content)

/-- An identifier. -/
def identifier (text : String) : Markup :=
  .styled .code "monospace" (.text text)

/-- A text that a document carries about itself. -/
def metaText? (document : Json) (field : String) : Option String :=
  (document.get? "meta").bind fun about => about.stringAt? field

/-- The line below the name: the report, and the assessment if the document tells. -/
def headerItems (recipe : Recipe) (document : Json) : List Markup :=
  [headerItem "Report" (identifier recipe.reportId)] ++
  ((metaText? document "assessment_run_id").map fun run =>
    headerItem "Assessment" (identifier run)).toList ++
  ((metaText? document "created_at").map fun time =>
    headerItem "Created" (.text time)).toList

/-- The header of a report. -/
def reportHeader (recipe : Recipe) (document : Json) (brand : Brand) : Markup :=
  .plain .header
    (.text "\n    " ++
    .optional (brand.logoText.map fun logo => .styled .div "logo" (.text logo)) ++
    .text "\n    " ++ .plain .h1 (.text recipe.name) ++
    .text "\n    " ++
    .styled .div "meta"
      (.join (.text " " ++ .bullet ++ .text " ") (headerItems recipe document)) ++
    .text "\n")

/-- The footer of a report. -/
def reportFooter (text : String) : Markup :=
  .plain .footer (.text "\n    " ++ .plain .p (.text text) ++ .text "\n")

/-! ## Documents -/

/-- The text of a document around its three parts. -/
def documentText (title stylesheet header sections footer : String) : String :=
  "<!DOCTYPE html>\n" ++
  "<html lang=\"en\">\n" ++
  "<head>\n" ++
  "    <meta charset=\"UTF-8\">\n" ++
  "    <meta name=\"viewport\" content=\"width=device-width, initial-scale=1.0\">\n" ++
  "    <title>" ++ title ++ "</title>\n" ++
  "    <style>" ++ stylesheet ++ "</style>\n" ++
  "</head>\n" ++
  "<body>\n" ++
  "    <div class=\"container\">\n" ++
  "        " ++ header ++ "\n" ++
  "        <main>" ++ sections ++ "</main>\n" ++
  "        " ++ footer ++ "\n" ++
  "    </div>\n" ++
  "</body>\n" ++
  "</html>"

namespace Recipe

/-- The options of a report: the brand of the recipe goes over the given one. -/
def options (recipe : Recipe) (given : RenderOptions) : RenderOptions :=
  { given with brand := given.brand.merge recipe.brand }

/-- The blocks of the sections of a recipe over a document, in order. -/
def blocks (recipe : Recipe) (registry : Registry) (given : RenderOptions) (document : Json) :
    List Markup :=
  recipe.sections.map (Section.render registry (recipe.options given) document)

/-- The report of a recipe over a document, if no section breaks down. -/
def report (recipe : Recipe) (registry : Registry) (given : RenderOptions) (document : Json) :
    String :=
  let options := recipe.options given
  documentText (Text.escape recipe.name)
    (Stylesheet.text options.brand)
    (reportHeader recipe document options.brand).render
    (String.join ((recipe.blocks registry given document).map Markup.render))
    (reportFooter options.footerText).render

/-- A section of the recipe breaks down over a document. -/
def breaks (recipe : Recipe) (document : Json) : Bool :=
  recipe.sections.any (Section.breaks document)

/-- The report of a recipe over a document; none if a section breaks down. -/
def report? (recipe : Recipe) (registry : Registry) (given : RenderOptions) (document : Json) :
    Option String :=
  if recipe.breaks document then none else some (recipe.report registry given document)

end Recipe

end DiagnosticReport
