import PearlReport.CommandLine
import PearlReport.Envelope
import PearlReport.Error
import PearlReport.Files
import PearlReport.Json.Value
import PearlReport.Json.Doc
import PearlReport.Json.Double
import PearlReport.Json.Fault
import PearlReport.Json.Printer
import PearlReport.Json.Token
import PearlReport.Log
import PearlReport.Main
import PearlReport.Payload.Buckets
import PearlReport.Payload.Jobs
import PearlReport.Payload.System
import PearlReport.Payload.Tapes
import PearlReport.Proofs.Agreement
import PearlReport.Proofs.Breaks
import PearlReport.Proofs.Builder
import PearlReport.Proofs.Calendar
import PearlReport.Proofs.DataModel
import PearlReport.Proofs.DateOrder
import PearlReport.Proofs.Decimal
import PearlReport.Proofs.Deletion
import PearlReport.Proofs.Desk
import PearlReport.Proofs.DirectReading
import PearlReport.Proofs.Directories
import PearlReport.Proofs.Envelope
import PearlReport.Proofs.ErrorDetail
import PearlReport.Proofs.FileTree
import PearlReport.Proofs.FixedLayout
import PearlReport.Proofs.History
import PearlReport.Proofs.Identifier
import PearlReport.Proofs.LayoutReader
import PearlReport.Proofs.Members
import PearlReport.Proofs.ObjectMetadata
import PearlReport.Proofs.Offset
import PearlReport.Proofs.OneEnvelope
import PearlReport.Proofs.OnePass
import PearlReport.Proofs.Outcome
import PearlReport.Proofs.OwnOutput
import PearlReport.Proofs.Paths
import PearlReport.Proofs.Payloads
import PearlReport.Proofs.Placement
import PearlReport.Proofs.Printed
import PearlReport.Proofs.Projection
import PearlReport.Proofs.Refusal
import PearlReport.Proofs.Response
import PearlReport.Proofs.RoundTrip
import PearlReport.Proofs.Session
import PearlReport.Proofs.Spelling
import PearlReport.Proofs.StoredSettings
import PearlReport.Proofs.Switches
import PearlReport.Proofs.TapeMessage
import PearlReport.Proofs.TextOrder
import PearlReport.Proofs.Token
import PearlReport.Proofs.Tree
import PearlReport.Proofs.Written
import PearlReport.Report
import PearlReport.Request
import PearlReport.Run
import PearlReport.Sample
import PearlReport.Settings
import PearlReport.Shape.Basic
import PearlReport.Shape.Serialize
import PearlReport.Shape.Text
import PearlReport.Shape.Value
import PearlReport.SystemError
import PearlReport.Text.Basic
import PearlReport.Text.Quoted
import PearlReport.Time.Instant
import PearlReport.Time.Layout
import PearlReport.Time.Rfc3339
import PearlReport.Uuid
