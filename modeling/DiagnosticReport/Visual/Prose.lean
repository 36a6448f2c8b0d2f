import DiagnosticReport.Chart.Drawing
import DiagnosticReport.Visual.Basic
import DiagnosticReport.Visual.Item

/-!
# Prose

Text blocks, callouts and the narrative of a record: its score with a descriptor and a trajectory,
its summary and its lists.
-/

namespace DiagnosticReport.Visual

/-! ## Paragraphs -/

/-- The parts of a text between pairs of line breaks. -/
def splitAtBlankLines : List Char → List (List Char)
  | [] => [[]]
  | '\n' :: '\n' :: rest => [] :: splitAtBlankLines rest
  | c :: rest =>
    match splitAtBlankLines rest with
    | first :: others => (c :: first) :: others
    | [] => [[c]]

/-- The paragraphs of a text, trimmed and without blank ones. -/
def paragraphTexts (text : String) : List String :=
  (((splitAtBlankLines text.toList).map Text.trimChars).filter fun cs => !cs.isEmpty).map
    String.ofList

/-- The paragraphs of a text. -/
def paragraphs (text : String) : Markup :=
  .concat ((paragraphTexts text).map fun text => .plain .p (.text text))

/-- The text of a section: the proses of its items, or the text that its options give. -/
def sectionText (bindings : Bindings) (s : Section) : String :=
  let proses := ((Item.all s bindings.primary?).map (Item.prose s)).filter
    fun text => !Text.isAllBlank text
  if proses.isEmpty then (s.textOption? "text").getD ""
  else String.intercalate "\n\n" proses

/-- A text in paragraphs. -/
def drawTextBlock : Drawing := fun bindings s _ =>
  let text := sectionText bindings s
  if Text.isAllBlank text then emptyState "No content available"
  else .styled .div "text-block" (paragraphs text)

/-! ## Callouts -/

/-- The variant of a callout: the one that the options give, else the first tone tag. -/
def calloutVariant (s : Section) : String :=
  (((s.textOption? "variant" <|> s.toneTags.head?).map styleSlug).filter
    fun slug => !slug.isEmpty).getD "info"

/-- A highlighted text with a heading if the options give one. -/
def drawCalloutBox : Drawing := fun bindings s _ =>
  let text := sectionText bindings s
  if Text.isAllBlank text then emptyState "No content available"
  else
    .styled .aside ("callout callout-" ++ calloutVariant s)
      (.optional ((s.textOption? "heading").map fun heading =>
        .styled .div "callout-heading" (.text heading)) ++
      paragraphs text)

/-! ## Narratives -/

/-- The trajectory of a record beside its score. -/
def narrativeTrajectory (t : Trajectory) : Markup :=
  .styled .span ("trajectory trajectory-" ++ t.name) (.text (t.arrow ++ " " ++ t.label))

/-- The score of a record with its descriptor, its own or the one of the score. -/
def narrativeHeadline (record : Json) (score : Float) : Markup :=
  let descriptor := (record.stringAt? "descriptor").getD (healthDescriptor score)
  .styled .div "narrative-headline"
    (.styled .span "score-value" (.text (roundedText score)) ++
    .styled .span "descriptor" (.text descriptor) ++
    .optional ((Item.trajectory? record (some score)).map narrativeTrajectory))

/-- The paragraphs of the first prose field of a record that is a string. -/
def narrativeText (record : Json) : Markup :=
  .optional ((["summary", "narrative", "text"].findSome? fun field => record.stringAt? field).map
    paragraphs)

/-- The fields of a record that are shown as lists. -/
def bulletFields (s : Section) : List String :=
  match s.listOption? "bullet_fields" with
  | some fields => fields.filterMap Json.asString?
  | .none => ["key_imperatives"]

/-- A field of a record as a list with a heading, unless it is empty. -/
def narrativeList (record : Json) (field : String) : Markup :=
  match record.arrayAt? field with
  | some (item :: items) =>
    .plain .h3 (.text (Item.titleCase field)) ++
    .plain .ul (.concat ((item :: items).map fun item => .plain .li (.text item.text)))
  | _ => .empty

/-- The narrative of a record. -/
def narrative (s : Section) (record : Json) : Markup :=
  let score := (Item.score? s record).map Scalar.clampScore
  .styled .div "narrative-block"
    (.optional (score.map (narrativeHeadline record)) ++
    narrativeText record ++
    .concat ((bulletFields s).map (narrativeList record)))

/-- The narrative of a record; any other value is drawn as a text. -/
def drawNarrativeBlock : Drawing := fun bindings s options =>
  match bindings.primary? with
  | .none | some .null => emptyState "No narrative available"
  | some record =>
    if record.isObject then narrative s record else drawTextBlock bindings s options

end DiagnosticReport.Visual
