import DiagnosticReport.Main
import DiagnosticReport.Proofs.Command.Loading
import DiagnosticReport.Proofs.Command.Stems
import DiagnosticReport.Proofs.Query.Order
import DiagnosticReport.Proofs.Query.Pipeline
import DiagnosticReport.Proofs.Path.Composition
import DiagnosticReport.Proofs.Path.Printing
import DiagnosticReport.Proofs.Json.Keys
import DiagnosticReport.Proofs.Json.Records
import DiagnosticReport.Proofs.Recipe.Loading
import DiagnosticReport.Proofs.Query.MergeSort
import DiagnosticReport.Proofs.Report.Sections
import DiagnosticReport.Proofs.Visual.Bookkeeping
import DiagnosticReport.Proofs.Visual.Shapes
import DiagnosticReport.Proofs.Recipe.Serialization
import DiagnosticReport.Proofs.Config.Settings
import DiagnosticReport.Proofs.Query.Selection
import DiagnosticReport.Proofs.Query.Shorthands
import DiagnosticReport.Proofs.Visual.Bands
import DiagnosticReport.Proofs.Visual.Headlines
import DiagnosticReport.Proofs.Visual.Labels
import DiagnosticReport.Proofs.Report.Comments
import DiagnosticReport.Proofs.Chart.Donut
import DiagnosticReport.Proofs.Visual.Groups
import DiagnosticReport.Proofs.Visual.Ratings
import DiagnosticReport.Proofs.Visual.Ring
import DiagnosticReport.Proofs.Chart.Waterfall
import DiagnosticReport.Proofs.Visual.Tables
import DiagnosticReport.Proofs.Visual.Paragraphs
import DiagnosticReport.Proofs.Query.Operators
import DiagnosticReport.Proofs.Files.Listing
import DiagnosticReport.Proofs.Command.Discovery
import DiagnosticReport.Proofs.Command.Places
import DiagnosticReport.Proofs.Chart.Radar
import DiagnosticReport.Proofs.Chart.Layout
import DiagnosticReport.Proofs.Chart.Clamped
import DiagnosticReport.Proofs.Query.Classes
