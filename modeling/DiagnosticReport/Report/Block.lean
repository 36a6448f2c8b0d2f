import DiagnosticReport.Visual.Registry

/-!
# The block of a section

Every section of a report becomes one block with its heading and description. What goes wrong with
a section, at reading or at drawing, shows as a placeholder inside its own block. If the pipeline of
a data source breaks down before the drawing, there is no block.
-/

namespace DiagnosticReport

/-- What is shown instead of something that could not be drawn. -/
def placeholder (message : String) : Markup :=
  .styled .div "placeholder" (.text ("[" ++ message ++ "]"))

/-- The message of a section that was not drawn, with the reason if there is one. -/
def notRendered (reason : Option String) : String :=
  "Section could not be rendered" ++ (reason.map (": " ++ ·)).getD ""

/-- The fragment of an outcome; a failure turns into a placeholder. -/
def Outcome.fragment : Outcome → Markup
  | drawn fragment => fragment
  | refused message => placeholder (notRendered (some message))
  | broken => placeholder (notRendered none)

namespace Section

/-- The characters of a tag that stand in its style class. -/
def isTagChar (c : Char) : Bool :=
  isAsciiAlphanumeric c || c == '_' || c == '-'

/-- The style class of the visual, unless its tag has no characters for one. -/
def visualClass? (s : Section) : Option String :=
  let name := String.ofList (s.visual.toList.filter isTagChar)
  if name.isEmpty then none else some ("visual-" ++ name)

/-- The style classes of the block. -/
def classes (s : Section) : List String :=
  ["report-section"] ++ s.visualClass?.toList ++ (s.layout.map LayoutHints.classes).getD []

/-- The description as a paragraph, unless it is blank. -/
def descriptionMarkup (s : Section) : Markup :=
  .optional ((s.description.filter fun text => !Text.isAllBlank text).map fun text =>
    .styled .p "section-description" (.text text))

/-- The block of a section around the fragment of its body. -/
def block (s : Section) (fragment : Markup) : Markup :=
  .element .block [(.styleClass, String.intercalate " " s.classes), (.id, s.id)]
    (.text "\n    " ++ .plain .h2 (.text s.title) ++
    .text "\n    " ++ s.descriptionMarkup ++
    .text "\n    " ++ .styled .div "section-body" fragment ++
    .text "\n") ++
  .text "\n"

/-- What becomes of a section over a document: a section that could not be read is not drawn. -/
def outcome (registry : Registry) (options : RenderOptions) (document : Json) (s : Section) :
    Outcome :=
  match s.fault with
  | some fault => .refused fault.message
  | none => registry.render (.resolve document s.sources) s options

/-- The block of a section over a document, if the section does not break down. -/
def render (registry : Registry) (options : RenderOptions) (document : Json) (s : Section) :
    Markup :=
  s.block (s.outcome registry options document).fragment

/-- A data source of the section breaks down over a document; the sources of a section that could
not be read are not looked at. -/
def breaks (document : Json) (s : Section) : Bool :=
  s.fault.isNone && s.sources.any fun source => source.breaks document

/-- The block of a section over a document; none if the section breaks down. -/
def render? (registry : Registry) (options : RenderOptions) (document : Json) (s : Section) :
    Option Markup :=
  if s.breaks document then none else some (s.render registry options document)

end Section

end DiagnosticReport
