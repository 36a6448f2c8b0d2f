import DiagnosticReport.Query.Source

/-!
# The JSON form of queries

Readers and writers of filters, sorts and data sources. A data source is read leniently: an entry
that does not fit becomes a source that keeps its id and carries the fault.
-/

namespace DiagnosticReport

/-- Fields of an object, of which those without a value are left out. -/
def Json.ofFields (fields : List (String × Option Json)) : Json :=
  .object (fields.filterMap fun (key, value) => value.map fun v => (key, v))

/-- An array of strings. -/
def Json.ofStrings (items : List String) : Json :=
  .array (items.map .string)

/-- A float as a JSON number. -/
def Json.ofFloat (x : Float) : Json :=
  .number (.float x)

/-- A count as a JSON number. -/
def Json.ofNat (n : Nat) : Json :=
  .number (.int n)

/-! ## Filters -/

namespace Operator

/-- Any name is accepted. -/
def reader : Reader Operator :=
  Reader.variant fun name => .ok (ofName name)

end Operator

namespace Filter

/-- The fields of a filter entry. -/
def record : Record Filter where
  name := "Filter"
  isOpen := true
  blank := {}
  fields := [
    .of "dimension_codes" .optional (.nullable (.list .string))
      (fun v f => { f with dimensionCodes := v }),
    .of "chapter_codes" .optional (.nullable (.list .string))
      (fun v f => { f with chapterCodes := v }),
    .of "type" .optional (.nullable .string) (fun v f => { f with kind := v }),
    .of "min_score" .optional (.nullable .float) (fun v f => { f with minScore := v }),
    .of "max_score" .optional (.nullable .float) (fun v f => { f with maxScore := v }),
    .of "field" .optional (.nullable .string) (fun v f => { f with field := v }),
    .of "operator" .optional (.nullable Operator.reader) (fun v f => { f with operator := v })
      .variant,
    .of "value" .optional (.nullable .any) (fun v f => { f with value := v })]

/-- A filter entry as JSON; keys that are not set are left out. -/
def toJson (filter : Filter) : Json :=
  .ofFields [
    ("dimension_codes", filter.dimensionCodes.map .ofStrings),
    ("chapter_codes", filter.chapterCodes.map .ofStrings),
    ("type", filter.kind.map .string),
    ("min_score", filter.minScore.map .ofFloat),
    ("max_score", filter.maxScore.map .ofFloat),
    ("field", filter.field.map .string),
    ("operator", filter.operator.map fun o => .string o.name),
    ("value", filter.value)]

end Filter

/-! ## Sorts -/

namespace Direction

/-- One of the two names. -/
def reader : Reader Direction :=
  Reader.variant fun name =>
    match ofName? name with
    | some direction => .ok direction
    | none => .error (.unknownVariant name ["asc", "desc"])

end Direction

namespace SortKey

/-- The fields of a sort. -/
def record : Record SortKey where
  name := "SortSpec"
  isOpen := true
  blank := ⟨"", .descending⟩
  fields := [
    .of "field" .required .string (fun v k => { k with field := v }),
    .of "direction" .optional Direction.reader (fun v k => { k with direction := v }) .variant]

/-- A sort as JSON. -/
def toJson (key : SortKey) : Json :=
  .object [("field", .string key.field), ("direction", .string key.direction.name)]

end SortKey

/-! ## Data sources -/

namespace DataSource

/-- Change the pipeline of a source. -/
def mapPipeline (f : Pipeline → Pipeline) (source : DataSource) : DataSource :=
  { source with pipeline := f source.pipeline }

/-- The fields of a data source. -/
def record : Record DataSource where
  name := "DataSource"
  isOpen := true
  blank := { id := "" }
  fields := [
    .of "id" .required .string (fun v s => { s with id := v }),
    .of "from" .required .string (fun v s => { s with origin := v }),
    .of "filters" .optional (.list Filter.record.read)
      (fun v => mapPipeline fun p => { p with filters := v }) (.list Filter.record.shape),
    .of "sort" .optional (.nullable SortKey.record.read)
      (fun v => mapPipeline fun p => { p with sort := v }) SortKey.record.shape,
    .of "limit" .optional (.nullable .size) (fun v => mapPipeline fun p => { p with limit := v }),
    .of "offset" .optional (.nullable .size) (fun v => mapPipeline fun p => { p with offset := v })]

/-- The source of the entry at a position; one that does not fit keeps its id. -/
def ofJson (index : Nat) (raw : Json) : DataSource :=
  match record.read raw with
  | .ok source => source
  | .error fault =>
    { id := (raw.stringAt? "id").getD ("source-" ++ Decimal.natText (index + 1)),
      fault := some fault }

/-- The sources of a list; a lone entry stands for a list of one and `null` for none. -/
def listOfJson : Json → List DataSource
  | .array entries => entries.mapIdx ofJson
  | .null => []
  | entry => [ofJson 0 entry]

/-- A data source as JSON; the fault is not written. -/
def toJson (source : DataSource) : Json :=
  .ofFields [
    ("id", some (.string source.id)),
    ("from", some (.string source.origin)),
    ("filters", if source.pipeline.filters.isEmpty then none
      else some (.array (source.pipeline.filters.map Filter.toJson))),
    ("sort", source.pipeline.sort.map SortKey.toJson),
    ("limit", source.pipeline.limit.map .ofNat),
    ("offset", source.pipeline.offset.map .ofNat)]

end DataSource

end DiagnosticReport
