import SensorFrames.Text.Blank
import SensorFrames.Text.Lowercase
import SensorFrames.Text.Quoted
import SensorFrames.Text.Form
import SensorFrames.Text.Reader
import SensorFrames.Number.Shortest
import SensorFrames.Json.Printer
import SensorFrames.Json.Value
import SensorFrames.Query.Written
import SensorFrames.Filter.Clause
import SensorFrames.Heatmap
import SensorFrames.Table
import SensorFrames.Service.Metadata
import SensorFrames.Settings.Format
import SensorFrames.Session
import SensorFrames.Http.Server
import SensorFrames.Service.Waiting
import SensorFrames.Proofs.Waiting.Completion
import SensorFrames.Proofs.Filter.Grammar
import SensorFrames.Proofs.Filter.ReadBack
import SensorFrames.Proofs.Filter.Expression
import SensorFrames.Proofs.Filter.Meaning
import SensorFrames.Proofs.Heatmap.Counting
import SensorFrames.Proofs.Heatmap.Rows
import SensorFrames.Proofs.Frame.Rows
import SensorFrames.Proofs.Table.Columns
import SensorFrames.Proofs.Table.Names
import SensorFrames.Proofs.Query.Pushdown
import SensorFrames.Proofs.Address.Encoding
import SensorFrames.Proofs.Address.ReadBack
import SensorFrames.Proofs.Session.Batch
import SensorFrames.Proofs.Session.Calls
import SensorFrames.Proofs.Session.Memo
import SensorFrames.Proofs.Json.Members
import SensorFrames.Proofs.Json.Slots
import SensorFrames.Proofs.Query.Format
import SensorFrames.Proofs.Session.StatusFields
import SensorFrames.Proofs.Heatmap.Totals
import SensorFrames.Proofs.Table.Derived
import SensorFrames.Proofs.Metadata.Collection
import SensorFrames.Proofs.Table.Layout
import SensorFrames.Proofs.Status.Labels
import SensorFrames.Proofs.Session.Bodies
import SensorFrames.Proofs.Timestamp.Calendar
import SensorFrames.Proofs.Timestamp.Pattern
import SensorFrames.Proofs.Timestamp.Written
import SensorFrames.Proofs.Query.Columns
import SensorFrames.Proofs.Filter.Quoting
import SensorFrames.Proofs.Settings.Override
import SensorFrames.Proofs.Timestamp.Detection
import SensorFrames.Proofs.Timestamp.Padding
import SensorFrames.Proofs.Text.Form
import SensorFrames.Proofs.Session.Refresh
import SensorFrames.Proofs.Session.Lone
import SensorFrames.Proofs.Session.Targets
