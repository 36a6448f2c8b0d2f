import DiagnosticReport.Chart.Donut
import DiagnosticReport.Visual.Basic
import DiagnosticReport.Visual.Item

/-!
# Scores

Score tiles, progress bars, metric cards and the dashboard of a list of indicators.
-/

namespace DiagnosticReport.Visual

/-- A score as it is shown: on the scale and without a fractional part. -/
def scoreText (score : Float) : String :=
  roundedText (Scalar.clampScore score)

/-- A number with one place, or none if that place is zero. -/
def onePlace (x : Float) : String :=
  formatNumber (Binary64.round (x * 10.0) / 10.0)

/-- The label of an item, or another text if it has none of its own. -/
def labelOr (s : Section) (fallback : String) (item : Json) : String :=
  let label := Item.label s item
  if label.isEmpty || item.isNumber then fallback else label

/-! ## Tiles -/

/-- The trajectory on a tile. -/
def tileTrajectory (t : Trajectory) : Markup :=
  .styled .div ("score-trajectory trajectory-" ++ t.name) (.text (t.arrow ++ " " ++ t.label))

/-- The tile of an item with a score. -/
def tile (s : Section) (options : RenderOptions) (fallback : String) (item : Json)
    (score : Float) : Markup :=
  let band := Item.band options.thresholds item score
  .styled .div ("score-tile " ++ band.styleClass)
    (.element .div [(.styleClass, "score-value"), (.style, "color:" ++ band.color)]
      (.text (scoreText score)) ++
    .styled .div "score-label" (.text (labelOr s fallback item)) ++
    .styled .div "score-band" (.text band.label) ++
    .optional ((Item.trajectory? item (some score)).map tileTrajectory))

/-- The tile of an item, if it has a score. -/
def tile? (s : Section) (options : RenderOptions) (fallback : String) (item : Json) :
    Option Markup :=
  (Item.score? s item).map (tile s options fallback item)

/-- The tile of the first item. -/
def drawScoreTile : Drawing := fun bindings s options =>
  (((Item.all s bindings.primary?).head?).bind (tile? s options s.title)).getD
    (emptyState "No score available")

/-- The tiles of all items with a score. -/
def drawScoreTiles : Drawing := fun bindings s options =>
  orEmptyState "No scores available"
    ((Item.shown s bindings.primary?).filterMap (tile? s options ""))
    fun tiles => .styled .div "score-tiles" (.concat tiles)

/-! ## Progress bars -/

/-- The row of an item with a score. -/
def progressRow (s : Section) (options : RenderOptions) (item : Json) (score : Float) : Markup :=
  let score := Scalar.clampScore score
  let band := Item.band options.thresholds item score
  let style := "width:" ++ onePlace score ++ "%;background:" ++ band.color
  .styled .div "progress-row"
    (.styled .span "progress-label" (.text (labelOr s s.title item)) ++
    .styled .div "progress-track"
      (.element .div [(.styleClass, "progress-fill " ++ band.styleClass), (.style, style)]
        .empty) ++
    .styled .span "progress-value" (.text (scoreText score)))

/-- The row of an item, if it has a score. -/
def progressRow? (s : Section) (options : RenderOptions) (item : Json) : Option Markup :=
  (Item.score? s item).map (progressRow s options item)

/-- The rows of all items with a score. -/
def drawProgressBar : Drawing := fun bindings s options =>
  orEmptyState "No scores available"
    ((Item.shown s bindings.primary?).filterMap (progressRow? s options))
    fun rows => .styled .div "progress-bars" (.concat rows)

/-! ## Metric cards -/

/-- The percentile of an item among its peers. -/
def peerPercentile? (item : Json) : Option Float :=
  ((item.get? "benchmark").bind fun b => b.get? "peer_percentile").bind Json.asFloat?

/-- The value of a card: the score with one place, or the text of a scalar. -/
def metricText? (s : Section) (item : Json) : Option String :=
  match Item.score? s item with
  | some score => some (onePlace score)
  | .none => if item.isObject then .none else some item.text

/-- The card of an item with a value. -/
def cardOf (s : Section) (item : Json) (value : String) : Markup :=
  let own := Item.label s item
  let label := if own.isEmpty || !item.isObject then s.title else own
  .styled .div "metric-card"
    (.styled .div "metric-value"
      (.text value ++
      .optional ((s.textOption? "unit").map fun unit =>
        .styled .span "metric-unit" (.text unit))) ++
    .styled .div "metric-label" (.text label) ++
    .optional ((peerPercentile? item).map fun p =>
      .styled .div "metric-context" (.text ("Peer percentile: " ++ roundedText p))))

/-- The card of the first item. -/
def drawMetricCard : Drawing := fun bindings s _ =>
  match (Item.all s bindings.primary?).head? with
  | .none => emptyState "No data available"
  | some item =>
    match metricText? s item with
    | some value => cardOf s item value
    | .none => emptyState "No value available"

/-! ## Dashboard -/

/-- The items with a score, and their scores on the scale. -/
def scoredItems (s : Section) (items : List Json) : List (Json × Float) :=
  items.filterMap fun item =>
    (Item.score? s item).map fun score => (item, Scalar.clampScore score)

/-- The number of items in a band. -/
def bandCount (thresholds : Thresholds) (scored : List (Json × Float)) (band : Band) : Nat :=
  scored.countP fun (item, score) => Item.band thresholds item score = band

/-- The slice of the donut for a band. -/
def bandSlice (thresholds : Thresholds) (scored : List (Json × Float)) (band : Band) :
    Donut.Slice Float :=
  { label := band.label, value := Float.ofNat (bandCount thresholds scored band),
    color := some band.color }

/-- The mean score of items. -/
def averageScore (scored : List (Json × Float)) : Float :=
  Scalar.sum (scored.map Prod.snd) / Float.ofNat scored.length

/-- The distribution of items over the bands beside their tiles. -/
def dashboard (s : Section) (options : RenderOptions) (scored : List (Json × Float)) : Markup :=
  let slices := Band.all.map (bandSlice options.thresholds scored)
  let size := (s.numberOption? "donut_size").getD 200.0
  let caption := "Average score across " ++ Decimal.natText scored.length ++ " KPIs"
  .styled .div "kpi-dashboard"
    (.styled .div "kpi-summary"
      (Donut.draw slices (.withSize size) (some (scoreText (averageScore scored))) ++
      .styled .div "kpi-caption" (.text caption)) ++
    .styled .div "score-tiles"
      (.concat (scored.filterMap fun (item, _) => tile? s options "" item)))

/-- The dashboard of all items with a score. -/
def drawKpiDashboard : Drawing := fun bindings s options =>
  orEmptyState "No KPIs available" (scoredItems s (Item.shown s bindings.primary?))
    (dashboard s options)

end DiagnosticReport.Visual
