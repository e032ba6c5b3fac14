import TraceView.CommandLine.Arguments
import TraceView.CommandLine.Report
import TraceView.Fault
import TraceView.Fields
import TraceView.Files
import TraceView.Formatter
import TraceView.Json.Address
import TraceView.Json.Basic
import TraceView.Json.Reader
import TraceView.Json.Token
import TraceView.Kind
import TraceView.Main
import TraceView.Notice
import TraceView.Number.Decimal
import TraceView.Number.Double
import TraceView.Number.Layout
import TraceView.Number.Numeral
import TraceView.Number.Quantity
import TraceView.Number.Shortest
import TraceView.Number.SixDigits
import TraceView.Operation.Duration
import TraceView.Operation.Pipeline
import TraceView.Operation.Status
import TraceView.Operation.Suffix
import TraceView.ProtoLog.Decoder
import TraceView.ProtoLog.Message
import TraceView.ProtoLog.ViewerConfig
import TraceView.Sorting.Merge
import TraceView.Sorting.Runs
import TraceView.Sorting.Search
import TraceView.Text.Blank
import TraceView.Text.Capital
import TraceView.Text.Digit
import TraceView.Text.Direction
import TraceView.Text.FileName
import TraceView.Text.HostName
import TraceView.Text.Percent
import TraceView.Text.Printable
import TraceView.Text.Punycode
import TraceView.Text.Quoted
import TraceView.Text.Range
import TraceView.Text.Skeleton
import TraceView.Time.Calendar
import TraceView.Time.Elapsed
import TraceView.Time.Timestamp
import TraceView.Trace.Basic
import TraceView.Trace.Decoder
import TraceView.Trace.Load
import TraceView.Trace.Loaded
import TraceView.Transition.Decoder
import TraceView.Tree.Edit
import TraceView.Tree.Equality
import TraceView.Tree.Node
import TraceView.Tree.Shelf
import TraceView.Tree.Spec
import TraceView.Value.Basic
import TraceView.Value.Display
import TraceView.Value.Equality
import TraceView.Web.Authority
import TraceView.Web.Parameters
import TraceView.Web.Part
import TraceView.Web.Request
import TraceView.Web.Resource
import TraceView.Web.Serve
import TraceView.Web.Store
import TraceView.Web.Target
import TraceView.Workbench
import TraceView.Proofs.Operation.Lookup
import TraceView.Proofs.Trace.Alignment
import TraceView.Proofs.Transition.Renaming
import TraceView.Proofs.Operation.Completion
import TraceView.Proofs.Trace.Erasure
import TraceView.Proofs.Json.Respelling
import TraceView.Proofs.Transition.Respelling
import TraceView.Proofs.ProtoLog.Respelling
import TraceView.Proofs.Trace.Respelling
import TraceView.Proofs.ProtoLog.Holding
import TraceView.Proofs.Workbench.History
import TraceView.Proofs.Workbench.Answers
import TraceView.Proofs.Trace.Times
import TraceView.Proofs.Trace.Structure
import TraceView.Proofs.Trace.Containment
import TraceView.Proofs.Web.Keeping
import TraceView.Proofs.Transition.Conservation
import TraceView.Proofs.Workbench.Refusals
import TraceView.Proofs.Trace.Clocks
import TraceView.Proofs.Json.Inserted
import TraceView.Proofs.Json.Dialects
import TraceView.Proofs.ProtoLog.Sources
import TraceView.Proofs.ProtoLog.Pieces
import TraceView.Proofs.Trace.Failures
import TraceView.Proofs.Trace.Sections
import TraceView.Proofs.Web.Served
import TraceView.Proofs.Json.Syntax
import TraceView.Proofs.Json.Lexemes
import TraceView.Proofs.Json.Scanning
import TraceView.Proofs.Trace.Documents
import TraceView.Proofs.Formatter
import TraceView.Proofs.Number.Digits
import TraceView.Proofs.Time.Dates
import TraceView.Proofs.Time.Reading
import TraceView.Proofs.Time.Order
import TraceView.Proofs.Time.Units
import TraceView.Proofs.Operation.Durations
import TraceView.Proofs.Operation.Calculated
import TraceView.Proofs.Operation.Statuses
import TraceView.Proofs.Operation.Repetition
import TraceView.Proofs.Value.Members
import TraceView.Proofs.Tree.Fields
import TraceView.Proofs.Trace.Nameless
import TraceView.Proofs.Number.Nearest
import TraceView.Proofs.Tree.Paths
import TraceView.Proofs.Tree.Descriptions
import TraceView.Proofs.Trace.Identified
import TraceView.Proofs.ProtoLog.Properties
import TraceView.Proofs.Number.SixDigits
import TraceView.Proofs.Value.Numbers
import TraceView.Proofs.Number.Bases
import TraceView.Proofs.Number.Whole
import TraceView.Proofs.ProtoLog.Words
import TraceView.Proofs.CommandLine.Reports
import TraceView.Proofs.Tree.Runs
import TraceView.Proofs.Operation.Sharing
import TraceView.Proofs.Sorting.Stability
import TraceView.Proofs.Sorting.Search
import TraceView.Proofs.Sorting.Sides
import TraceView.Proofs.Sorting.Merge
import TraceView.Proofs.Sorting.Runs
import TraceView.Proofs.Time.Timestamps
import TraceView.Proofs.Trace.Sorted
import TraceView.Proofs.Transition.Normal
import TraceView.Proofs.Operation.Formatting
import TraceView.Proofs.Value.Integers
