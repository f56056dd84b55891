import Spreadsheet.CommandLine.Footprint
import Spreadsheet.CommandLine.Program
import Spreadsheet.Main
import Spreadsheet.Session.Execution
import Spreadsheet.Proofs.Collection.IdSet
import Spreadsheet.Proofs.Collection.Table
import Spreadsheet.Proofs.Dependency.Relation
import Spreadsheet.Proofs.Dependency.Rows
import Spreadsheet.Proofs.Dependency.Addition
import Spreadsheet.Proofs.Cell
import Spreadsheet.Proofs.Dependency.Refinement
import Spreadsheet.Proofs.Dependency.Agreement
import Spreadsheet.Proofs.Dependency.UpdateOrder
import Spreadsheet.Proofs.Loop
import Spreadsheet.Proofs.Dependency.LeastCycle
import Spreadsheet.Proofs.Dependency.UpdateLoop
import Spreadsheet.Proofs.Sheet.Refresh
import Spreadsheet.Proofs.Sheet.History
import Spreadsheet.Proofs.Formula.Recomputation
import Spreadsheet.Proofs.Sheet.Recomputation
import Spreadsheet.Proofs.Sheet.Linkage
import Spreadsheet.Proofs.Sheet.Effect
import Spreadsheet.Proofs.CellId
import Spreadsheet.Proofs.Formula.Grammar
import Spreadsheet.Proofs.Sheet.Refusal
import Spreadsheet.Proofs.Sheet.Diagnosis
import Spreadsheet.Proofs.Formula.Spacing
import Spreadsheet.Proofs.Number.Decimal
import Spreadsheet.Proofs.Number.Place
import Spreadsheet.Proofs.Number.Nearest
import Spreadsheet.Proofs.Number.Shortest
import Spreadsheet.Proofs.Number.Pattern
import Spreadsheet.Proofs.Formula.Rendering
import Spreadsheet.Proofs.Formula.ErrorPosition
import Spreadsheet.Proofs.Formula.EvaluationLoop
import Spreadsheet.Proofs.Formula.Canonical
import Spreadsheet.Proofs.Sheet.Contents
import Spreadsheet.Proofs.Text.Line
import Spreadsheet.Proofs.Sheet.Loading
import Spreadsheet.Proofs.Sheet.RoundTrip
import Spreadsheet.Proofs.Sheet.Agreement
import Spreadsheet.Proofs.Text.Word
import Spreadsheet.Proofs.Text.Utf8
import Spreadsheet.Proofs.Disk.Path
import Spreadsheet.Proofs.Disk.File
import Spreadsheet.Proofs.Sheet.File
import Spreadsheet.Proofs.CommandLine.FileEdits
import Spreadsheet.Proofs.Session.FrontEnd
import Spreadsheet.Proofs.Json.Order
import Spreadsheet.Proofs.Json.Reader
import Spreadsheet.Proofs.Json.RoundTrip
import Spreadsheet.Proofs.Disk.Area
import Spreadsheet.Proofs.Disk.Place
import Spreadsheet.Proofs.Journal.Interleaving
import Spreadsheet.Proofs.Journal.Line
import Spreadsheet.Proofs.Journal.Query
import Spreadsheet.Proofs.Session.Independence
import Spreadsheet.Proofs.Session.Journal
import Spreadsheet.Proofs.Session.Autosave
import Spreadsheet.Proofs.Journal.Tail
import Spreadsheet.Proofs.CommandLine.EventListing
import Spreadsheet.Proofs.Formula.Operand
import Spreadsheet.Proofs.Text.ValidPart
import Spreadsheet.Proofs.Text.LineCount
import Spreadsheet.Proofs.Sheet.LineNumber
import Spreadsheet.Proofs.Session.Replies
import Spreadsheet.Proofs.Journal.AnyLog
import Spreadsheet.Proofs.Formula.Reference
import Spreadsheet.Proofs.Number.Literal
import Spreadsheet.Proofs.Number.ReadingBack
import Spreadsheet.Proofs.Formula.Parentheses
import Spreadsheet.Proofs.Formula.Dump
import Spreadsheet.Proofs.Disk.Likeness
import Spreadsheet.Proofs.Journal.Confinement
