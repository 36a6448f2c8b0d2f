import DiagnosticReport.Chart.Drawing
import DiagnosticReport.Visual.Basic
import DiagnosticReport.Visual.Item

/-!
# Tables

A table has one row per item; its columns are those that the section names, or the first fields of
the first item that are no bookkeeping. The comparison table sets two lists side by side.
-/

namespace DiagnosticReport.Visual

/-! ## Columns and cells -/

/-- Fields that are never inferred as columns. -/
def bookkeepingFields : List String :=
  ["id", "evidence_refs", "linked_finding_ids", "linked_recommendation_ids",
   "contributing_question_ids", "sub_indicators"]

/-- The field is bookkeeping, by its name or by its ending. -/
def isBookkeeping (field : String) : Bool :=
  bookkeepingFields.contains field || field.endsWith "_id" || field.endsWith "_ids"

/-- The first fields of an item that are no bookkeeping. -/
def inferColumns (item : Json) (most : Nat) : List String :=
  match item with
  | .object fields => ((fields.map Prod.fst).filter fun field => !isBookkeeping field).take most
  | _ => []

/-- The text of a cell. -/
def cellText : Option Json → String
  | .none | some .null => "-"
  | some (.bool b) => if b then "Yes" else "No"
  | some (.array items) => String.intercalate ", " (items.map Json.text)
  | some value => value.text

/-- The columns that the section names, if it names any. -/
def namedColumns? (s : Section) : Option (List String) :=
  ((s.listOption? "columns").map fun columns => columns.filterMap Json.asString?).filter
    fun columns => !columns.isEmpty

/-- The columns of a table with the given first item. -/
def tableColumns (s : Section) (options : RenderOptions) (first : Json) : List String :=
  (namedColumns? s).getD
    (inferColumns first (max ((s.countOption? "max_columns").getD options.maxColumns) 1))

/-! ## Tables -/

/-- The cells of an item: one per column, or its own text if there are no columns. -/
def rowTexts (columns : List String) (item : Json) : List String :=
  if columns.isEmpty then [cellText (some item)]
  else columns.map fun column => cellText (item.get? column)

/-- The titles of columns. -/
def headerTexts (columns : List String) : List String :=
  if columns.isEmpty then ["Value"] else columns.map Item.titleCase

/-- A row of cells. -/
def rowOf (tag : Tag) (texts : List String) : Markup :=
  .plain .tr (.concat (texts.map fun text => .plain tag (.text text)))

/-- The table of items with the given columns. -/
def dataTable (columns : List String) (items : List Json) : Markup :=
  .styled .table "data-table"
    (.plain .thead (rowOf .th (headerTexts columns)) ++
    .plain .tbody (.concat (items.map fun item => rowOf .td (rowTexts columns item))))

/-- A table. -/
def drawTable : Drawing := fun bindings s options =>
  match Item.shown s bindings.primary? with
  | [] => emptyState "No data available"
  | first :: rest => dataTable (tableColumns s options first) (first :: rest)

/-! ## Comparison -/

/-- A section with fewer than two data sources has nothing to compare. -/
structure TooFewSources where
  sectionId : String
  count : Nat

/-- The wording of the error. -/
def TooFewSources.message (e : TooFewSources) : String :=
  "comparison_table needs two data sources, section '" ++ e.sectionId ++ "' has " ++
    Decimal.natText e.count

/-- The cell of an item: its label and its score; empty without an item. -/
def rankedCell (s : Section) (item : Option Json) : Markup :=
  .plain .td
    (.optional (item.map fun item =>
      .text (Item.label s item) ++
      .optional ((Item.score? s item).map fun score =>
        .text " " ++ .styled .span "rank-score" (.text (roundedText score)))))

/-- The row of a rank, counted from 0. -/
def rankedRow (s : Section) (left right : List Json) (rank : Nat) : Markup :=
  .plain .tr
    (.styled .td "rank" (.text (Decimal.natText (rank + 1))) ++
    rankedCell s left[rank]? ++
    rankedCell s right[rank]?)

/-- The table of two lists of items under two titles. -/
def comparison (s : Section) (leftTitle rightTitle : String) (left right : List Json) : Markup :=
  .styled .table "comparison-table"
    (.plain .thead (rowOf .th ["#", leftTitle, rightTitle]) ++
    .plain .tbody
      (.concat ((List.range (max left.length right.length)).map (rankedRow s left right))))

/-- A comparison of the first two data sources. -/
def drawComparisonTable (bindings : Bindings) (s : Section) : Except TooFewSources Markup :=
  match bindings.entries with
  | (leftId, leftValue) :: (rightId, rightValue) :: _ =>
    let left := Item.shown s leftValue
    let right := Item.shown s rightValue
    let leftTitle := (s.textOption? "left_title").getD (Item.titleCase leftId)
    let rightTitle := (s.textOption? "right_title").getD (Item.titleCase rightId)
    .ok (if left.isEmpty && right.isEmpty then emptyState "No data available"
      else comparison s leftTitle rightTitle left right)
  | entries => .error ⟨s.id, entries.length⟩

end DiagnosticReport.Visual
