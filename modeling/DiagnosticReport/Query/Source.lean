import DiagnosticReport.Path
import DiagnosticReport.Json.Decode
import DiagnosticReport.Query.Pipeline

/-!
# Data sources and bindings

A data source names a query on a document: a path and a pipeline. The bindings of a section hold
one entry per source, in their order; a source that could not be read or that finds nothing leaves
a hole at its place.
-/

namespace DiagnosticReport

/-- A named query on a document. -/
structure DataSource where
  id : String
  origin : String := ""
  pipeline : Pipeline := {}
  /-- Why the source could not be read; such a source finds nothing. -/
  fault : Option DecodeError := none

namespace DataSource

/-- The value that a source finds in a document, if its pipeline does not break down. -/
def resolve? (source : DataSource) (document : Json) : Option Json :=
  if source.fault.isSome then none
  else (resolvePath? document source.origin).map source.pipeline.apply

/-- The pipeline of the source breaks down on what the source finds in a document. -/
def breaks (source : DataSource) (document : Json) : Bool :=
  source.fault.isNone && (resolvePath? document source.origin).any source.pipeline.breaks

end DataSource

/-- The values bound for a section, by source. -/
structure Bindings where
  entries : List (String × Option Json) := []

namespace Bindings

/-- The values of all sources in a document. -/
def resolve (document : Json) (sources : List DataSource) : Bindings :=
  ⟨sources.map fun source => (source.id, source.resolve? document)⟩

/-- The values of all sources in a document; none if the pipeline of one of them breaks down. -/
def resolve? (document : Json) (sources : List DataSource) : Option Bindings :=
  if sources.any fun source => source.breaks document then none else some (resolve document sources)

/-- The value of the first entry with the given id. -/
def get? (bindings : Bindings) (id : String) : Option Json :=
  (bindings.entries.find? fun entry => entry.1 == id).bind Prod.snd

/-- The value of the entry at a position. -/
def at? (bindings : Bindings) (n : Nat) : Option Json :=
  bindings.entries[n]?.bind Prod.snd

/-- The value of the first entry. -/
def primary? (bindings : Bindings) : Option Json :=
  bindings.at? 0

/-- The number of entries. -/
def size (bindings : Bindings) : Nat :=
  bindings.entries.length

end Bindings

end DiagnosticReport
