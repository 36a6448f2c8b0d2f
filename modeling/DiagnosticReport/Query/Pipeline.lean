import DiagnosticReport.Query.Filter
import DiagnosticReport.Query.MergeSort

/-!
# The pipeline over an array

A pipeline keeps the items that pass all filters, sorts them, drops the first `offset` of them and
keeps at most `limit` of the rest. Values other than arrays pass through unchanged. A pipeline gives
no value if its sort breaks down.
-/

namespace DiagnosticReport

/-- The steps that follow the resolution of a path. -/
structure Pipeline where
  filters : List Filter := []
  sort : Option SortKey := none
  limit : Option Nat := none
  offset : Option Nat := none

namespace Pipeline

/-- The items that pass all filters. -/
def select (pipeline : Pipeline) (items : List Json) : List Json :=
  items.filter fun item => pipeline.filters.all fun filter => filter.passes item

/-- The items in the order of the sort, if there is one; none if the sort breaks down. -/
def arrange? (pipeline : Pipeline) (items : List Json) : Option (List Json) :=
  match pipeline.sort with
  | some key => sort? key.compareItems items
  | none => some items

/-- The items in the order of the sort, if there is one and it does not break down. -/
def arrange (pipeline : Pipeline) (items : List Json) : List Json :=
  (pipeline.arrange? items).getD items

/-- The page of items from the offset on, up to the limit. -/
def page (pipeline : Pipeline) (items : List Json) : List Json :=
  let rest := items.drop (pipeline.offset.getD 0)
  match pipeline.limit with
  | some limit => rest.take limit
  | none => rest

/-- The value after all steps, if the pipeline does not break down. -/
def apply (pipeline : Pipeline) : Json → Json
  | .array items => .array (pipeline.page (pipeline.arrange (pipeline.select items)))
  | value => value

/-- The sort of the selected items breaks down. -/
def breaks (pipeline : Pipeline) : Json → Bool
  | .array items => (pipeline.arrange? (pipeline.select items)).isNone
  | _ => false

end Pipeline

end DiagnosticReport
