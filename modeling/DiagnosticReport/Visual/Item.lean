import DiagnosticReport.Band
import DiagnosticReport.Json.Coercion
import DiagnosticReport.Recipe.Basic

/-!
# Items

Visuals draw items. A bound value is a list of items, a record that holds one under a well-known
field, or a single item. The label, the score and the prose of an item come from the field that the
section names for it, else from the first of the well-known fields that has one.
-/

namespace DiagnosticReport.Item

/-! ## From values to items -/

/-- Fields of a record that hold a list of items, first one first. -/
def nestedFields : List String :=
  ["items", "dimensions", "chapters", "sub_indicators", "phases", "findings", "recommendations",
   "quick_wins", "risks", "key_imperatives", "action_steps"]

/-- Fields that label an item. -/
def labelFields : List String :=
  ["name", "label", "title", "theme", "short_label", "dimension_code", "chapter_code", "id"]

/-- Fields that hold the score of an item. -/
def scoreFields : List String :=
  ["score_overall", "score", "value", "overall_health_score"]

/-- Fields that hold the prose of an item. -/
def proseFields : List String :=
  ["text", "narrative", "description", "expected_outcomes", "summary"]

/-- The list of items that a record holds, under the field that the section names or under a
well-known one. -/
def nested? (s : Section) (record : Json) : Option (List Json) :=
  ((s.textOption? "items_field").toList ++ nestedFields).findSome? fun field =>
    record.arrayAt? field

/-- The items of a bound value. -/
def all (s : Section) : Option Json → List Json
  | none | some .null => []
  | some (.array items) => items
  | some (.object fields) => (nested? s (.object fields)).getD [.object fields]
  | some scalar => [scalar]

/-- At most as many items as the section allows. -/
def limit {α : Type} (s : Section) (items : List α) : List α :=
  match s.countOption? "max_items" with
  | some n => items.take n
  | none => items

/-- The items of a bound value, as many as the section allows. -/
def shown (s : Section) (value : Option Json) : List Json :=
  limit s (all s value)

/-! ## Parts of an item -/

/-- The first of several fields that is present. -/
def firstPresent? (item : Json) (fields : List String) : Option Json :=
  fields.findSome? fun field => item.present? field

/-- The field that the section names by an option, if the item has it. -/
def chosen? (s : Section) (option : String) (item : Json) : Option Json :=
  (s.textOption? option).bind fun field => item.present? field

/-- The label of an item; a scalar is its own label. -/
def label (s : Section) (item : Json) : String :=
  match chosen? s "label_field" item with
  | some value => value.text
  | none =>
    match item with
    | .object _ => ((firstPresent? item labelFields).map Json.text).getD ""
    | .null => ""
    | other => other.text

/-- The score of an item; a scalar is its own score. -/
def score? (s : Section) (item : Json) : Option Float :=
  match s.textOption? "value_field" with
  | some field => item.numberAt? field
  | none =>
    match item with
    | .object _ => scoreFields.findSome? fun field => item.numberAt? field
    | other => other.number?

/-- The prose of an item, or its label if it has none. -/
def prose (s : Section) (item : Json) : String :=
  match chosen? s "text_field" item with
  | some value => value.text
  | none =>
    match item with
    | .object _ => ((firstPresent? item proseFields).map Json.text).getD (label s item)
    | .null => ""
    | other => other.text

/-- The trajectory of an item: its own, or the one from its previous score to the given one. -/
def trajectory? (item : Json) (score : Option Float) : Option Trajectory :=
  ((item.stringAt? "trajectory").bind Trajectory.parse?) <|> do
    let previous ← item.numberAt? "previous_score_overall"
    let score ← score
    return .between score (some previous)

/-- The band of an item: its own, or the one of the given score. -/
def band (thresholds : Thresholds) (item : Json) (score : Float) : Band :=
  ((item.stringAt? "score_band").bind Band.parse?).getD (thresholds.classify score)

/-! ## Titles of fields -/

/-- A word with its first letter in upper case. -/
def capitalize : List Char → List Char
  | [] => []
  | c :: cs => Text.upperChar c ++ cs

/-- The title of a field: its words, parted by `_`, `-` or a blank, with capitals. -/
def titleCase (key : String) : String :=
  let words := (key.toList.splitOnP fun c => c == '_' || c == '-' || c == ' ').filter
    fun word => !word.isEmpty
  String.intercalate " " (words.map fun word => String.ofList (capitalize word))

end DiagnosticReport.Item
