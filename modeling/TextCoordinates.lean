import TextCoordinates.Text.Basic
import TextCoordinates.Text.Decimal
import TextCoordinates.Text.CodeRange
import TextCoordinates.Text.Hidden
import TextCoordinates.Text.CaseContext
import TextCoordinates.Text.LetterCase
import TextCoordinates.Text.Capital
import TextCoordinates.Text.Quoted
import TextCoordinates.Json.Basic
import TextCoordinates.Json.Quoted
import TextCoordinates.Json.Printer
import TextCoordinates.Json.Reader
import TextCoordinates.Diagnostic.Code
import TextCoordinates.Diagnostic.Basic
import TextCoordinates.Diagnostic.Format
import TextCoordinates.Violation
import TextCoordinates.Failure
import TextCoordinates.Progression
import TextCoordinates.Slice
import TextCoordinates.Span
import TextCoordinates.Line
import TextCoordinates.Location
import TextCoordinates.LineMap.Basic
import TextCoordinates.LineMap.Scan
import TextCoordinates.LineMap.Lookup
import TextCoordinates.LineMap.Sequence
import TextCoordinates.LineMap.Input
import TextCoordinates.Excerpt
import TextCoordinates.Proofs.Progression
import TextCoordinates.Proofs.Slice
import TextCoordinates.Proofs.Span.Checked
import TextCoordinates.Proofs.Span.Hull
import TextCoordinates.Proofs.Span.Views
import TextCoordinates.Proofs.Span.Construction
import TextCoordinates.Proofs.Span.Written
import TextCoordinates.Proofs.Text.Rows
import TextCoordinates.Proofs.Text.Reading
import TextCoordinates.Proofs.Text.Blocks
import TextCoordinates.Proofs.LineMap.Search
import TextCoordinates.Proofs.LineMap.InOrder
import TextCoordinates.Proofs.LineMap.Tiling
import TextCoordinates.Proofs.LineMap.Correspondence
import TextCoordinates.Proofs.LineMap.Course
import TextCoordinates.Proofs.LineMap.Halving
import TextCoordinates.Proofs.LineMap.Rounds
import TextCoordinates.Proofs.LineMap.Layout
import TextCoordinates.Proofs.LineMap.Counters
import TextCoordinates.Proofs.LineMap.Table
import TextCoordinates.Proofs.LineMap.Record
import TextCoordinates.Proofs.LineMap.Outline
import TextCoordinates.Proofs.LineMap.Runs
import TextCoordinates.Proofs.LineMap.WrittenPosition
import TextCoordinates.Proofs.LineMap.Reading
import TextCoordinates.Proofs.LineMap.Concatenation
import TextCoordinates.Proofs.LineMap.Content
import TextCoordinates.Proofs.LineMap.LineText
import TextCoordinates.Proofs.LineMap.Excerpt
import TextCoordinates.Proofs.LineMap.Widening
import TextCoordinates.Proofs.LineMap.Marker
import TextCoordinates.Proofs.LineMap.RowByRow
import TextCoordinates.Proofs.LineMap.Neighbourhood
import TextCoordinates.Proofs.LineMap.Slices
import TextCoordinates.Proofs.LineMap.Sequence
import TextCoordinates.Proofs.Request.Refusal
import TextCoordinates.Proofs.Request.Exact
import TextCoordinates.Proofs.Json.Number
import TextCoordinates.Proofs.Json.RoundTrip
import TextCoordinates.Proofs.Diagnostic.Field
import TextCoordinates.Proofs.Diagnostic.Decoding
import TextCoordinates.Proofs.Diagnostic.Noted
import TextCoordinates.Proofs.Diagnostic.Separation
