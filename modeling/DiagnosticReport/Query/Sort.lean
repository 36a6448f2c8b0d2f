import DiagnosticReport.Json.Coercion

/-!
# Sorting items

Items are sorted by one field: two numbers by their value, anything else by the alphabetic order
of their texts, where a missing field counts as the empty text. The sort is by insertion and
stable: an item moves forward only past items that it strictly precedes.
-/

namespace DiagnosticReport

/-- The direction of a sort. -/
inductive Direction where
  | ascending
  | descending
deriving DecidableEq

/-- A sort by the values under one field. -/
structure SortKey where
  field : String
  direction : Direction := .descending

namespace Direction

/-- The direction of a name. -/
def ofName? : String → Option Direction
  | "asc" => some ascending
  | "desc" => some descending
  | _ => none

/-- The name of a direction. -/
def name : Direction → String
  | ascending => "asc"
  | descending => "desc"

/-- An ascending order, turned into this direction. -/
def orient : Direction → Ordering → Ordering
  | ascending, order => order
  | descending, order => order.swap

end Direction

namespace SortKey

/-- The text by which a value is sorted. -/
def sortText (value : Option Json) : String :=
  match value with
  | none | some .null => ""
  | some value => value.text

/-- The ascending order of two values. -/
def compareValues : Option Json → Option Json → Ordering
  | some (.number a), some (.number b) =>
    compare (Binary64.rank a.toFloat) (Binary64.rank b.toFloat)
  | a, b => compareText (sortText a) (sortText b)

/-- The order of two items. -/
def compareItems (key : SortKey) (a b : Json) : Ordering :=
  key.direction.orient (compareValues (a.get? key.field) (b.get? key.field))

end SortKey

/-! ## Stable insertion -/

/-- Put an item into a list in reverse order: past the items that it strictly precedes. -/
def insertReversed {α : Type} (order : α → α → Ordering) (item : α) : List α → List α
  | [] => [item]
  | last :: rest =>
    if order item last = .lt then last :: insertReversed order item rest else item :: last :: rest

/-- Sort by inserting one item after the other. -/
def stableSort {α : Type} (order : α → α → Ordering) (items : List α) : List α :=
  (items.foldl (fun done item => insertReversed order item done) []).reverse

end DiagnosticReport
