import DiagnosticReport.Visual.Item
import DiagnosticReport.Visual.Roadmap

/-!
# Risk matrix

Risks on a grid of three likelihoods by three severities. Ratings are words or numbers on a scale
to 3, to 5 or to 100; risks without a rating that can be placed are counted below the grid.
-/

namespace DiagnosticReport.Visual

/-- A level of a rating. -/
inductive Level where
  | low
  | medium
  | high
deriving DecidableEq

namespace Level

/-- All levels, lowest first. -/
def all : List Level :=
  [low, medium, high]

/-- The number of a level, from 1 to 3. -/
def number : Level → Nat
  | low => 1
  | medium => 2
  | high => 3

/-- The position of a level among all of them. -/
def index (level : Level) : Fin 3 :=
  ⟨level.number - 1, by cases level <;> decide⟩

/-- The name of a level for display. -/
def label : Level → String
  | low => "Low"
  | medium => "Medium"
  | high => "High"

/-- The name of a level in style classes. -/
def name : Level → String
  | low => "low"
  | medium => "medium"
  | high => "high"

/-- The level that a word names, in any letter case and with blanks around it. -/
def ofWord? (word : String) : Option Level :=
  match Text.lowerAscii (Text.trim word) with
  | "low" | "minor" | "unlikely" | "rare" => some low
  | "medium" | "moderate" | "possible" => some medium
  | "high" | "major" | "critical" | "severe" | "likely" | "almost certain" => some high
  | _ => Option.none

/-- The level with a number; numbers below 1 count as 1, above 3 as 3. -/
def ofRounded (n : Nat) : Level :=
  if n ≤ 1 then low else if n = 2 then medium else high

/-- The level of a number on a scale to 3, to 5 or to 100; numbers up to 0 have none. -/
def ofNumber? (x : Float) : Option Level :=
  let rounded := Binary64.wholeMagnitude (Binary64.round x)
  if Binary64.lessEq x 0.0 then Option.none
  else if Binary64.lessEq x 3.0 then some (ofRounded rounded)
  else if Binary64.lessEq x 5.0 then some (ofRounded (rounded - 1))
  else if Binary64.less x 34.0 then some low
  else if Binary64.less x 67.0 then some medium
  else some high

/-- The level of a rating: by its word, else by its number. -/
def ofRating? (value : Option Json) : Option Level := do
  let value ← value
  (value.asString?.bind ofWord?) <|> value.number?.bind ofNumber?

end Level

/-- The exposure of a cell: how high likelihood and severity are together. -/
def exposure (likelihood severity : Level) : Level :=
  let product := likelihood.number * severity.number
  if product ≥ 6 then .high else if product ≥ 3 then .medium else .low

/-- The likelihood and severity of an item, if both can be placed. -/
def place? (item : Json) : Option (Level × Level) := do
  let severity ← Level.ofRating? (item.get? "severity")
  let likelihood ← Level.ofRating? (item.get? "likelihood")
  return (likelihood, severity)

/-- The label of a risk, or its prose if it has no label. -/
def riskLabel (s : Section) (item : Json) : String :=
  let label := Item.label s item
  if label.isEmpty then Item.prose s item else label

/-! ## Sorting risks into cells -/

/-- Risks sorted into cells: the labels in each cell, and how many risks have no place. -/
structure RiskGrid where
  /-- Rows of likelihoods, lowest first, with a cell for each severity. -/
  rows : Vector (Vector (Array String) 3) 3 := .replicate 3 (.replicate 3 #[])
  unplaced : Nat := 0

namespace RiskGrid

/-- The labels in the cell of a likelihood and a severity. -/
def cell (grid : RiskGrid) (likelihood severity : Level) : Array String :=
  grid.rows[likelihood.index][severity.index]

/-- One more label in a cell, behind those that are there. -/
def put (grid : RiskGrid) (likelihood severity : Level) (label : String) : RiskGrid :=
  let row := grid.rows[likelihood.index]
  let labels := row[severity.index].push label
  { grid with rows := grid.rows.set likelihood.index (row.set severity.index labels) }

/-- One more risk, in its cell or without a place. -/
def add (s : Section) (grid : RiskGrid) (item : Json) : RiskGrid :=
  match place? item with
  | some (likelihood, severity) => grid.put likelihood severity (riskLabel s item)
  | .none => { grid with unplaced := grid.unplaced + 1 }

/-- The risks of a list, one after the other. -/
def ofItems (s : Section) (items : List Json) : RiskGrid :=
  items.foldl (add s) {}

end RiskGrid

/-! ## Drawing -/

/-- A cell with its labels. -/
def riskCell (grid : RiskGrid) (likelihood severity : Level) : Markup :=
  let labels := grid.cell likelihood severity
  .element .td [(.styleClass, "risk-cell risk-" ++ (exposure likelihood severity).name),
      (.dataCount, Decimal.natText labels.size)]
    (.concat (labels.toList.map fun label => .styled .span "risk-item" (.text label)))

/-- The row of a likelihood. -/
def riskRow (grid : RiskGrid) (likelihood : Level) : Markup :=
  .plain .tr
    (.plain .th (.text likelihood.label) ++
    .concat (Level.all.map (riskCell grid likelihood)))

/-- The note on the risks that cannot be placed, if there are any. -/
def unplacedNote (n : Nat) : Markup :=
  if n = 0 then .empty
  else
    .styled .p "risk-unplaced"
      (.text (countOf n "risk" ++ " without a recognizable severity or likelihood"))

/-- The table of a grid, the highest likelihood on top, and the note below. -/
def riskTable (grid : RiskGrid) : Markup :=
  .styled .table "risk-matrix"
    (.plain .thead (.plain .tr
      (.plain .th (.text "Likelihood \\ Severity") ++
      .concat (Level.all.map fun level => .plain .th (.text level.label)))) ++
    .plain .tbody (.concat (Level.all.reverse.map (riskRow grid)))) ++
  unplacedNote grid.unplaced

/-- A risk matrix. -/
def drawRiskMatrix : Drawing := fun bindings s _ =>
  orEmptyState "No risks identified" (Item.all s bindings.primary?) fun items =>
    riskTable (.ofItems s items)

end DiagnosticReport.Visual
